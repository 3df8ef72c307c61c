import Mathlib.Data.List.TakeWhile
import Unitae.Base.Listing
import Unitae.Base.Scanning
import Unitae.Text

/-!
# Unitae — the messages to share (`share-message.ts`)

A body is written with placeholders, and a message gives each the value of its variable. A body is the text of one
template and no other, and the message is what that template means (`renderShareMessage_means`): a line whose
variables are all without a value is left out, a line that lost a placeholder is tidied, any other line stands as
it is written. The check of the editor keeps every unknown placeholder out (`renderShareMessage_verbatim`).
-/

namespace Unitae.Events

/-! ## The source's functions -/

inductive ShareVariable where
  | assignee | assigneeFirstname | assistant | partName | section_ | topic | duration | date | time | eventName
  | note | congregation | link
deriving DecidableEq, Repr

/-- `SHARE_VARIABLES`. -/
def shareVariables : List (String × ShareVariable) :=
  [("assignee", .assignee), ("assigneeFirstname", .assigneeFirstname), ("assistant", .assistant),
    ("partName", .partName), ("section", .section_), ("topic", .topic), ("duration", .duration), ("date", .date),
    ("time", .time), ("eventName", .eventName), ("note", .note), ("congregation", .congregation), ("link", .link)]

def shareVariable? (name : List Char) : Option ShareVariable :=
  (shareVariables.find? (·.1.toList == name)).map (·.2)

abbrev ShareMessageContext := ShareVariable → Option String

/-- `[a-zA-Z]`. -/
def isLetter (c : Char) : Bool :=
  (0x61 ≤ c.toNat && c.toNat ≤ 0x7A) || (0x41 ≤ c.toNat && c.toNat ≤ 0x5A)

/-- A name in double braces, with the white space around it. -/
structure Placeholder where
  before : List Char
  name : List Char
  after : List Char
  before_blank : ∀ c ∈ before, isTrimmed c
  name_ne_nil : name ≠ []
  name_letters : ∀ c ∈ name, isLetter c
  after_blank : ∀ c ∈ after, isTrimmed c

def Placeholder.spelling (p : Placeholder) : List Char :=
  '{' :: '{' :: (p.before ++ p.name ++ p.after ++ ['}', '}'])

/-- `/\{\{\s*([a-zA-Z]+)\s*\}\}/` at the head of a text. -/
def readPlaceholder : List Char → Option (Placeholder × List Char)
  | '{' :: '{' :: cs =>
    let fromName := cs.dropWhile isTrimmed
    let fromAfter := fromName.dropWhile isLetter
    if hname : fromName.takeWhile isLetter ≠ [] then
      if ['}', '}'] <+: fromAfter.dropWhile isTrimmed then
        some (⟨cs.takeWhile isTrimmed, fromName.takeWhile isLetter, fromAfter.takeWhile isTrimmed,
          fun _ => List.mem_takeWhile_imp, hname, fun _ => List.mem_takeWhile_imp, fun _ => List.mem_takeWhile_imp⟩,
          (fromAfter.dropWhile isTrimmed).drop 2)
      else none
    else none
  | _ => none

/-! ### The pattern -/

theorem not_isTrimmed_of_isLetter {c : Char} (h : isLetter c) : isTrimmed c = false := by
  simp only [isLetter, Bool.or_eq_true, Bool.and_eq_true, decide_eq_true_eq] at h
  rw [isTrimmed, Bool.or_eq_false_iff]
  constructor
  · simp only [List.contains_eq_mem, List.mem_cons, List.not_mem_nil, or_false, decide_eq_false_iff_not]
    omega
  · rw [Bool.and_eq_false_iff, decide_eq_false_iff_not, decide_eq_false_iff_not]
    omega

/-- A run of one class of characters that another character ends. -/
theorem takeWhile_run {p : Char → Bool} {run rest : List Char} (hrun : ∀ c ∈ run, p c)
    (hrest : ∀ c ∈ rest.head?, p c = false) :
    (run ++ rest).takeWhile p = run ∧ (run ++ rest).dropWhile p = rest := by
  rw [List.takeWhile_append_of_pos hrun, List.dropWhile_append_of_pos hrun]
  cases rest with
  | nil => exact ⟨List.append_nil run, rfl⟩
  | cons c rest =>
    have hc : ¬p c = true := Bool.eq_false_iff.mp (hrest c rfl)
    rw [List.takeWhile_cons_of_neg hc, List.dropWhile_cons_of_neg hc, List.append_nil]
    exact ⟨rfl, rfl⟩

theorem readPlaceholder_iff {xs rest : List Char} {p : Placeholder} :
    readPlaceholder xs = some (p, rest) ↔ xs = p.spelling ++ rest := by
  constructor
  · intro h
    unfold readPlaceholder at h
    split at h
    · next cs =>
      dsimp only at h
      split at h
      · split at h
        · next hclose =>
          obtain ⟨tail, htail⟩ := hclose
          obtain ⟨rfl, rfl⟩ := Prod.mk.inj (Option.some.inj h)
          show '{' :: '{' :: cs = '{' :: '{' :: (_ ++ _ ++ _ ++ _) ++ List.drop 2 _
          rw [← htail]
          show '{' :: '{' :: cs = '{' :: '{' :: (_ ++ _ ++ _ ++ ['}', '}'] ++ tail)
          rw [List.append_assoc, htail, List.append_assoc, List.takeWhile_append_dropWhile, List.append_assoc,
            List.takeWhile_append_dropWhile, List.takeWhile_append_dropWhile]
        · exact absurd h (by simp)
      · exact absurd h (by simp)
    · exact absurd h (by simp)
  · rintro rfl
    obtain ⟨before, name, after, hbefore, hne, hname, hafter⟩ := p
    have hbrace : ∀ c ∈ ('}' :: '}' :: rest).head?, isTrimmed c = false ∧ isLetter c = false := by
      intro c hc
      obtain rfl : '}' = c := Option.some.inj hc
      decide
    let close := after ++ '}' :: '}' :: rest
    have hclose : close.takeWhile isTrimmed = after ∧ close.dropWhile isTrimmed = '}' :: '}' :: rest :=
      takeWhile_run hafter fun c hc => (hbrace c hc).1
    have hletters : (name ++ close).takeWhile isLetter = name ∧ (name ++ close).dropWhile isLetter = close := by
      refine takeWhile_run hname fun c hc => ?_
      cases after with
      | nil => exact (hbrace c hc).2
      | cons blank after =>
        obtain rfl : blank = c := Option.some.inj hc
        exact Bool.eq_false_iff.mpr fun hletter =>
          absurd (hafter blank List.mem_cons_self) (Bool.eq_false_iff.mp (not_isTrimmed_of_isLetter hletter))
    have hblank : (before ++ (name ++ close)).takeWhile isTrimmed = before ∧
        (before ++ (name ++ close)).dropWhile isTrimmed = name ++ close := by
      refine takeWhile_run hbefore fun c hc => ?_
      cases name with
      | nil => exact absurd rfl hne
      | cons letter name =>
        obtain rfl : letter = c := Option.some.inj hc
        exact not_isTrimmed_of_isLetter (hname letter List.mem_cons_self)
    have hspelling : Placeholder.spelling ⟨before, name, after, hbefore, hne, hname, hafter⟩ ++ rest
        = '{' :: '{' :: (before ++ (name ++ close)) := by
      simp [Placeholder.spelling, close]
    rw [hspelling]
    simp only [readPlaceholder, hblank.1, hblank.2, hletters.1, hletters.2, hclose.1, hclose.2]
    rw [dif_pos hne, if_pos ⟨rest, rfl⟩]
    rfl

/-- `PLACEHOLDER`. -/
def placeholder : Matcher Char Placeholder where
  spell := Placeholder.spelling
  run := readPlaceholder
  run_iff := readPlaceholder_iff
  spell_ne_nil _ := List.cons_ne_nil _ _

/-! ### Rendering -/

def isBlank (value : Option String) : Bool := value.all (trim · == "")

def addUnknown (unknown : List String) : Char ⊕ Placeholder → List String
  | .inl _ => unknown
  | .inr p =>
    if (shareVariable? p.name).isSome then unknown
    else if unknown.contains (String.ofList p.name) then unknown
    else unknown ++ [String.ofList p.name]

def findUnknownVariables (body : String) : List String := (placeholder.pieces body.toList).foldl addUnknown []

/-- Where `line.replace` stands, with the counters of its callback. -/
structure Substitution where
  text : List Char
  total : ℕ
  filled : ℕ
  removed : Bool

def Substitution.replace (context : ShareMessageContext) (st : Substitution) : Char ⊕ Placeholder → Substitution
  | .inl c => { st with text := st.text ++ [c] }
  | .inr p =>
    match shareVariable? p.name with
    | none => { st with removed := true }
    | some v =>
      if isBlank (context v) then { st with total := st.total + 1, removed := true }
      else
        { st with
          text := st.text ++ (trim ((context v).getD "")).toList
          total := st.total + 1
          filled := st.filled + 1 }

/-- `[:\-–—,;]`. -/
def isSeparator (c : Char) : Bool := [':', '-', '–', '—', ',', ';'].contains c

/-- `.replace(/[\s]*[:\-–—,;]+\s*$/, '')`, read from the end of the text. -/
def dropDangling (text : List Char) : List Char :=
  let separators := text.reverse.dropWhile isTrimmed
  if (separators.takeWhile isSeparator).isEmpty then text
  else ((separators.dropWhile isSeparator).dropWhile isTrimmed).reverse

/-- `.replace(/[ \t]{2,}/g, ' ')`, with the blanks just read. -/
def closeGaps (blanks : List Char) : List Char → List Char
  | [] => if 2 ≤ blanks.length then [' '] else blanks
  | c :: cs =>
    if c = ' ' ∨ c = '\t' then closeGaps (blanks ++ [c]) cs
    else (if 2 ≤ blanks.length then [' '] else blanks) ++ c :: closeGaps [] cs

def tidy (text : List Char) : List Char := closeGaps [] (dropDangling text)

def renderLine (line : List Char) (context : ShareMessageContext) : Option (List Char) :=
  let st := (placeholder.pieces line).foldl (Substitution.replace context) ⟨[], 0, 0, false⟩
  if 0 < st.total ∧ st.filled = 0 then none
  else if !st.removed then some st.text
  else some (tidy st.text)

/-- `.replace(/\r\n?/g, '\n')`. -/
def normalizeLineEnds : List Char → List Char
  | [] => []
  | '\r' :: '\n' :: cs => '\n' :: normalizeLineEnds cs
  | '\r' :: cs => '\n' :: normalizeLineEnds cs
  | c :: cs => c :: normalizeLineEnds cs

def renderShareMessage (body : String) (context : ShareMessageContext) : String :=
  let lines := ((normalizeLineEnds body.toList).splitOn '\n').filterMap fun line => renderLine line context
  trim (String.ofList (['\n'].intercalate lines))

/-! ## Templates -/

/-- A line as the engine reads it. -/
@[ext] structure ShareLine where
  pieces : List (Char ⊕ Placeholder)
  scanned : placeholder.Scanned pieces
  oneLine : '\n' ∉ placeholder.text pieces

@[ext] structure ShareTemplate where
  lines : List ShareLine
  lines_ne_nil : lines ≠ []

def ShareLine.text (line : ShareLine) : List Char := placeholder.text line.pieces

def ShareTemplate.text (t : ShareTemplate) : List Char := ['\n'].intercalate (t.lines.map ShareLine.text)

namespace ShareLine

variable (line : ShareLine) (context : ShareMessageContext)

def placeholders : List Placeholder := line.pieces.filterMap Sum.getRight?

/-- The variables the line names. -/
def named : List ShareVariable := line.placeholders.filterMap fun p => shareVariable? p.name

/-- The value a placeholder is given. -/
def valueOf (p : Placeholder) : Option String :=
  ((shareVariable? p.name).bind context).filter fun value => !isBlank (some value)

/-- The line with its values in place. -/
def written : List Char :=
  line.pieces.flatMap fun piece => piece.elim ([·]) fun p => ((valueOf context p).elim "" trim).toList

/-- A line is left out when it names variables and none has a value, and tidied when it lost a placeholder. -/
def meaning : Option (List Char) :=
  if line.named ≠ [] ∧ ∀ v ∈ line.named, isBlank (context v) then none
  else if ∀ p ∈ line.placeholders, (valueOf context p).isSome then some (line.written context)
  else some (tidy (line.written context))

end ShareLine

def ShareTemplate.message (t : ShareTemplate) (context : ShareMessageContext) : String :=
  trim (String.ofList (['\n'].intercalate (t.lines.filterMap (·.meaning context))))

/-! ### What a line is rendered to -/

section Lines

variable {context : ShareMessageContext} {ps : List (Char ⊕ Placeholder)} {v : ShareVariable} {p : Placeholder}

theorem valueOf_unknown (h : shareVariable? p.name = none) : ShareLine.valueOf context p = none := by
  rw [ShareLine.valueOf, h]
  rfl

theorem valueOf_blank (h : shareVariable? p.name = some v) (hv : isBlank (context v) = true) :
    ShareLine.valueOf context p = none := by
  rw [ShareLine.valueOf, h, Option.bind_some]
  cases hvalue : context v with
  | none => rfl
  | some value =>
    rw [hvalue] at hv
    exact Option.filter_some_neg (by simp [hv])

theorem valueOf_given (h : shareVariable? p.name = some v) (hv : isBlank (context v) = false) :
    ShareLine.valueOf context p = some ((context v).getD "") := by
  rw [ShareLine.valueOf, h, Option.bind_some]
  cases hvalue : context v with
  | none => rw [hvalue] at hv; exact absurd hv (by decide)
  | some value =>
    rw [hvalue] at hv
    exact Option.filter_some_pos (by simp [hv])

/-- The counters of the callback, and what it has written. -/
theorem foldl_replace (st : Substitution) : ps.foldl (Substitution.replace context) st =
    { text := st.text ++ ps.flatMap fun piece => piece.elim ([·]) fun p =>
        ((ShareLine.valueOf context p).elim "" trim).toList
      total := st.total + ((ps.filterMap Sum.getRight?).filterMap fun p => shareVariable? p.name).length
      filled := st.filled + (((ps.filterMap Sum.getRight?).filterMap fun p => shareVariable? p.name).filter
        fun v => !isBlank (context v)).length
      removed := st.removed || (ps.filterMap Sum.getRight?).any fun p => (ShareLine.valueOf context p).isNone } := by
  induction ps generalizing st with
  | nil => simp
  | cons piece ps ih =>
    rw [List.foldl_cons, ih]
    cases piece with
    | inl c =>
      have hskip : List.filterMap Sum.getRight? (.inl c :: ps : List (Char ⊕ Placeholder)) =
          ps.filterMap Sum.getRight? := rfl
      simp [Substitution.replace, hskip]
    | inr p =>
      cases hvariable : shareVariable? p.name with
      | none =>
        simp [Substitution.replace, hvariable, valueOf_unknown hvariable]
      | some v =>
        cases hblank : isBlank (context v) with
        | true =>
          simp [Substitution.replace, hvariable, hblank, valueOf_blank hvariable hblank]
          omega
        | false =>
          simp [Substitution.replace, hvariable, hblank, valueOf_given hvariable hblank]
          omega

theorem renderLine_eq (line : ShareLine) : renderLine line.text context = line.meaning context := by
  have hpieces : placeholder.pieces line.text = line.pieces := Matcher.pieces_text line.scanned
  have hleft : 0 < 0 + line.named.length ∧ 0 + (line.named.filter fun v => !isBlank (context v)).length = 0 ↔
      line.named ≠ [] ∧ ∀ v ∈ line.named, isBlank (context v) := by
    rw [Nat.zero_add, Nat.zero_add, List.length_pos_iff, List.length_eq_zero_iff, List.filter_eq_nil_iff]
    simp
  have hwhole : (!(false || line.placeholders.any fun p => (ShareLine.valueOf context p).isNone)) = true ↔
      ∀ p ∈ line.placeholders, (ShareLine.valueOf context p).isSome := by
    simp [Option.isSome_iff_ne_none]
  simp only [renderLine, hpieces, foldl_replace]
  exact if_congr hleft rfl (if_congr hwhole rfl rfl)

end Lines

/-! ## Reading a body -/

section Reading

def ShareLine.ofText (text : List Char) (h : '\n' ∉ text) : ShareLine where
  pieces := placeholder.pieces text
  scanned := Matcher.pieces_scanned text
  oneLine := by rwa [Matcher.text_pieces]

theorem ShareLine.text_ofText {text : List Char} (h : '\n' ∉ text) : (ShareLine.ofText text h).text = text :=
  Matcher.text_pieces text

/-- The template a body is the text of. -/
def shareTemplate (body : String) : ShareTemplate where
  lines := ((normalizeLineEnds body.toList).splitOn '\n').pmap ShareLine.ofText fun _ => not_mem_of_mem_splitOn
  lines_ne_nil h := List.splitOn_ne_nil _ _ (List.pmap_eq_nil_iff.mp h)

variable {body : String}

theorem lines_shareTemplate :
    (shareTemplate body).lines.map ShareLine.text = (normalizeLineEnds body.toList).splitOn '\n' := by
  rw [shareTemplate, List.map_pmap]
  calc _ = List.pmap (fun line _ => line) ((normalizeLineEnds body.toList).splitOn '\n')
        fun _ => not_mem_of_mem_splitOn := List.pmap_congr_left _ fun _ _ h _ => ShareLine.text_ofText h
    _ = _ := by rw [List.pmap_eq_map, List.map_id']

theorem text_shareTemplate : (shareTemplate body).text = normalizeLineEnds body.toList := by
  rw [ShareTemplate.text, lines_shareTemplate, List.intercalate_splitOn]

theorem ShareTemplate.ext_text {t t' : ShareTemplate} (h : t.text = t'.text) : t = t' := by
  have hlines : ∀ t : ShareTemplate, t.text.splitOn '\n' = t.lines.map ShareLine.text := by
    intro t
    refine List.splitOn_intercalate '\n' (fun text htext => ?_) fun hnil => t.lines_ne_nil (List.map_eq_nil_iff.mp hnil)
    obtain ⟨line, -, rfl⟩ := List.mem_map.mp htext
    exact line.oneLine
  have hinjective : Function.Injective ShareLine.text := by
    intro line line' hline
    have hpieces := congrArg placeholder.pieces hline
    rw [ShareLine.text, ShareLine.text, Matcher.pieces_text line.scanned, Matcher.pieces_text line'.scanned] at hpieces
    exact ShareLine.ext hpieces
  refine ShareTemplate.ext (List.map_injective_iff.mpr hinjective ?_)
  rw [← hlines, ← hlines, h]

theorem renderShareMessage_eq (context : ShareMessageContext) :
    renderShareMessage body context = (shareTemplate body).message context := by
  rw [renderShareMessage, ShareTemplate.message, ← lines_shareTemplate, List.filterMap_map]
  simp only [Function.comp_def, renderLine_eq]

/-- **A message means what its template means.** Every body is the text of one template, and no other: lines of
characters and placeholders, where no placeholder starts at a character. Whatever the values, the message is put
together from what these lines mean. -/
theorem renderShareMessage_means (body : String) :
    ∃! t : ShareTemplate, t.text = normalizeLineEnds body.toList ∧
      ∀ context, renderShareMessage body context = t.message context :=
  ⟨shareTemplate body, ⟨text_shareTemplate, renderShareMessage_eq⟩,
    fun _ ht => ShareTemplate.ext_text (ht.1.trans text_shareTemplate.symm)⟩

end Reading

/-! ## What the editor accepts -/

section Accepted

variable {body : String} {context : ShareMessageContext}

theorem brace_not_mem (p : Placeholder) : '{' ∉ p.before ++ p.name ++ p.after ++ ['}', '}'] := by
  have hblank : ¬isTrimmed '{' = true := by decide
  have hletter : ¬isLetter '{' = true := by decide
  simp only [List.mem_append, not_or]
  exact ⟨⟨⟨fun h => hblank (p.before_blank _ h), fun h => hletter (p.name_letters _ h)⟩,
    fun h => hblank (p.after_blank _ h)⟩, by decide⟩

/-- A brace that is not in a text comes after it. -/
theorem length_le_of_brace {inner before rest tail : List Char} (hinner : '{' ∉ inner)
    (h : inner ++ rest = before ++ '{' :: tail) : inner.length ≤ before.length := by
  rcases List.append_eq_append_iff.mp h with ⟨between, hbefore, -⟩ | ⟨between, hin, htail⟩
  · rw [hbefore, List.length_append]
    omega
  · cases between with
    | nil => rw [hin, List.append_nil]
    | cons c between =>
      obtain rfl : '{' = c := (List.cons.inj htail).1
      exact absurd (hin ▸ List.mem_append_right before List.mem_cons_self) hinner

theorem placeholder_apart : placeholder.Apart := by
  intro b b' before rest rest' h
  let inner := b.before ++ b.name ++ b.after ++ ['}', '}']
  have hlength : (placeholder.spell b).length = inner.length + 2 := rfl
  have hpos : 2 ≤ inner.length := by
    show 2 ≤ (b.before ++ b.name ++ b.after ++ ['}', '}']).length
    rw [List.length_append]
    exact Nat.le_add_left 2 _
  match before with
  | [] => exact .inl rfl
  | [x] =>
    have hafter : inner ++ rest = [] ++ '{' :: _ := congrArg (fun cs => cs.tail.tail) h
    have hle : inner.length ≤ 0 := length_le_of_brace (brace_not_mem b) hafter
    omega
  | x :: y :: before =>
    have hafter : inner ++ rest = before ++ (b'.spelling ++ rest') :=
      (congrArg (fun cs => cs.tail.tail) h).trans (List.append_assoc _ _ _)
    have hle : inner.length ≤ before.length := length_le_of_brace (brace_not_mem b) hafter
    refine .inr ?_
    rw [hlength, List.length_cons, List.length_cons]
    omega

/-- The unknown names are listed, all of them. -/
theorem mem_findUnknownVariables {p : Placeholder} (hp : .inr p ∈ placeholder.pieces body.toList)
    (hunknown : shareVariable? p.name = none) : String.ofList p.name ∈ findUnknownVariables body := by
  have hkept : ∀ (unknown : List String) (piece : Char ⊕ Placeholder), unknown ⊆ addUnknown unknown piece := by
    intro unknown piece
    unfold addUnknown
    split
    · exact List.Subset.refl _
    · split
      · exact List.Subset.refl _
      · split
        · exact List.Subset.refl _
        · exact List.subset_append_left _ _
  have hadded : ∀ unknown, String.ofList p.name ∈ addUnknown unknown (.inr p) := by
    intro unknown
    show _ ∈ if (shareVariable? p.name).isSome then unknown else _
    rw [hunknown]
    by_cases hin : String.ofList p.name ∈ unknown
    · simp [hin]
    · simp [hin]
  have hfold : ∀ (ps : List (Char ⊕ Placeholder)) (unknown : List String),
      String.ofList p.name ∈ unknown ∨ .inr p ∈ ps → String.ofList p.name ∈ ps.foldl addUnknown unknown := by
    intro ps
    induction ps with
    | nil => exact fun unknown h => h.resolve_right List.not_mem_nil
    | cons piece ps ih =>
      intro unknown h
      refine ih _ ?_
      rcases h with hin | hps
      · exact .inl (hkept unknown piece hin)
      · rcases List.mem_cons.mp hps with rfl | hps
        · exact .inl (hadded unknown)
        · exact .inr hps
  exact hfold _ [] (.inr hp)

/-- A line stands in the body as it is written. -/
theorem infix_of_mem_lines (cs : List Char) : ∃ first rest, (normalizeLineEnds cs).splitOn '\n' = first :: rest ∧
    first <+: cs ∧ ∀ line ∈ rest, line <:+: cs := by
  -- a line end starts a line, any other character goes on with the first one
  have hbreak : ∀ {cs : List Char} (ends : List Char), (∃ first rest,
      (normalizeLineEnds cs).splitOn '\n' = first :: rest ∧ first <+: cs ∧ ∀ line ∈ rest, line <:+: cs) → ∃ first rest,
      ('\n' :: normalizeLineEnds cs).splitOn '\n' = first :: rest ∧ first <+: ends ++ cs ∧
      ∀ line ∈ rest, line <:+: ends ++ cs := by
    rintro cs ends ⟨first, rest, hlines, hfirst, hrest⟩
    refine ⟨[], first :: rest, ?_, List.nil_prefix, fun line hline => ?_⟩
    · rw [List.splitOn_cons_eq_if_modifyHead, hlines]
      rfl
    · rcases List.mem_cons.mp hline with rfl | hline
      · exact hfirst.isInfix.trans (List.suffix_append ends cs).isInfix
      · exact (hrest line hline).trans (List.suffix_append ends cs).isInfix
  induction cs using normalizeLineEnds.induct with
  | case1 => exact ⟨[], [], rfl, List.nil_prefix, by simp⟩
  | case2 cs ih => exact hbreak ['\r', '\n'] ih
  | case3 cs hnext ih =>
    rw [normalizeLineEnds]
    · exact hbreak ['\r'] ih
    · exact hnext
  | case4 c cs hfirst hsecond ih =>
    rw [normalizeLineEnds]
    · by_cases hc : c = '\n'
      · rw [hc]
        exact hbreak ['\n'] ih
      · obtain ⟨first, rest, hlines, hstart, hrest⟩ := ih
        refine ⟨c :: first, rest, ?_, List.cons_prefix_cons.mpr ⟨rfl, hstart⟩, fun line hline => ?_⟩
        · rw [List.splitOn_cons_eq_if_modifyHead, if_neg (by simpa using hc), hlines]
          rfl
        · exact (hrest line hline).trans (List.suffix_cons c cs).isInfix
    · exact hfirst
    · exact hsecond

/-- Every placeholder of a message is one that the editor has checked. -/
theorem known_of_accepted (h : findUnknownVariables body = []) {line : ShareLine}
    (hline : line ∈ (shareTemplate body).lines) {p : Placeholder} (hp : p ∈ line.placeholders) :
    ∃ v ∈ line.named, shareVariable? p.name = some v := by
  have hpiece : .inr p ∈ line.pieces := by
    obtain ⟨piece, hpiece, hget⟩ := List.mem_filterMap.mp hp
    rwa [Sum.getRight?_eq_some_iff.mp hget] at hpiece
  cases hvariable : shareVariable? p.name with
  | some v => exact ⟨v, List.mem_filterMap.mpr ⟨p, hp, hvariable⟩, rfl⟩
  | none =>
    exfalso
    have hinLine : p.spelling <:+: line.text := by
      obtain ⟨before, after, hpieces⟩ := List.append_of_mem hpiece
      refine ⟨placeholder.text before, placeholder.text after, ?_⟩
      show _ = line.pieces.flatMap placeholder.spelling
      rw [hpieces, List.flatMap_append, List.flatMap_cons, List.append_assoc]
      rfl
    have hinBody : line.text <:+: body.toList := by
      obtain ⟨first, rest, hlines, hfirst, hrest⟩ := infix_of_mem_lines body.toList
      have hmem : line.text ∈ first :: rest := by
        rw [← hlines, ← lines_shareTemplate]
        exact List.mem_map_of_mem hline
      rcases List.mem_cons.mp hmem with heq | hmem
      · rw [heq]
        exact hfirst.isInfix
      · exact hrest _ hmem
    obtain ⟨before, after, hbody⟩ := hinLine.trans hinBody
    have hfound : .inr p ∈ placeholder.pieces body.toList := by
      rw [← hbody]
      exact Matcher.mem_pieces placeholder_apart before after
    have hlisted := mem_findUnknownVariables hfound hvariable
    rw [h] at hlisted
    exact List.not_mem_nil hlisted

/-- **A body the editor accepts says what it was written to say.** Each of its placeholders is one of the known
variables; where all of these have a value, the message is the body with the values in their places, and no line
is left out or tidied. -/
theorem renderShareMessage_verbatim (haccepted : findUnknownVariables body = [])
    (hvalues : ∀ line ∈ (shareTemplate body).lines, ∀ v ∈ line.named, isBlank (context v) = false) :
    (∀ line ∈ (shareTemplate body).lines, ∀ p ∈ line.placeholders, ∃ v, shareVariable? p.name = some v) ∧
      renderShareMessage body context =
        trim (String.ofList (['\n'].intercalate ((shareTemplate body).lines.map (·.written context)))) := by
  refine ⟨fun line hline p hp => ?_, ?_⟩
  · obtain ⟨v, -, hv⟩ := known_of_accepted haccepted hline hp
    exact ⟨v, hv⟩
  · have hmeaning : ∀ line ∈ (shareTemplate body).lines, line.meaning context = some (line.written context) := by
      intro line hline
      have hkept : ¬(line.named ≠ [] ∧ ∀ v ∈ line.named, isBlank (context v)) := by
        intro hleft
        obtain ⟨v, hv⟩ := List.exists_mem_of_ne_nil _ hleft.1
        exact absurd (hleft.2 v hv) (Bool.eq_false_iff.mp (hvalues line hline v hv))
      have hwhole : ∀ p ∈ line.placeholders, (ShareLine.valueOf context p).isSome := by
        intro p hp
        obtain ⟨v, hnamed, hv⟩ := known_of_accepted haccepted hline hp
        rw [valueOf_given hv (hvalues line hline v hnamed)]
        rfl
      rw [ShareLine.meaning, if_neg hkept, if_pos hwhole]
    have hlines : (shareTemplate body).lines.filterMap (·.meaning context) =
        (shareTemplate body).lines.map (·.written context) := by
      rw [List.filterMap_congr hmeaning]
      exact congrFun List.filterMap_eq_map' _
    rw [renderShareMessage_eq, ShareTemplate.message, hlines]

end Accepted

/-- Two lines with a variable each, one of them spelled with blanks. -/
def greeting : String := "Bonjour \x7b\x7b assigneeFirstname \x7d\x7d,\r\nSujet : \x7b\x7btopic\x7d\x7d"

theorem renderShareMessage_verbatim_greeting :
    (∀ line ∈ (shareTemplate greeting).lines, ∀ p ∈ line.placeholders, ∃ v, shareVariable? p.name = some v) ∧
      renderShareMessage greeting (fun _ => some "Jean ") = trim (String.ofList (['\n'].intercalate
        ((shareTemplate greeting).lines.map (·.written fun _ => some "Jean ")))) :=
  renderShareMessage_verbatim (by decide +kernel) fun _ _ _ _ => by decide

/-- Without a topic the second line goes, with its label, and a typo takes no more than itself. -/
example : renderShareMessage
    "\x7b\x7b partName \x7d\x7d : \x7b\x7btopik\x7d\x7d\nSujet : \x7b\x7btopic\x7d\x7d"
    (fun v => if v = .partName then some " Lecture " else none) = "Lecture" := by
  decide +kernel

end Unitae.Events
