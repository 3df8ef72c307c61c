import Unitae.Base.Transaction
import Unitae.Base.Run
import Unitae.Base.Forest
import Unitae.Base.Span
import Unitae.Roles.ChartForm
import Unitae.Roles.ChartTree
import Unitae.Roles.RoleMatrix
import Unitae.Roles.SiblingOrder
import Unitae.Roles.MoveTargets
import Unitae.Roles.SheetLayout
import Unitae.Roles.SheetHeadings
import Unitae.Roles.LastAdmin
import Unitae.Roles.Routes
import Unitae.Territories.Suspension
import Unitae.Publishers.Stints
import Unitae.Publishers.GroupLeaders
import Unitae.Publishers.MemberLimit
import Unitae.Events.Notices
import Unitae.Board.Pioneers
import Unitae.Board.Reordering
import Unitae.Board.TextWrapping
import Unitae.Board.RoleDeletion
import Unitae.Settings.ImportBoard
import Unitae.Settings.ImportRoles
import Unitae.Authentication.Revocation
import Unitae.Authentication.AttemptLimits
import Unitae.Events.FlagRuns
import Unitae.Events.Speakers
import Unitae.Events.Delegation
import Unitae.Events.Instantiation
import Unitae.Notifications.Corrections
import Unitae.Base.Grouping
import Unitae.Notifications.Digest
import Unitae.Notifications.DigestPipeline
import Unitae.Settings.ImportPresets
import Unitae.Settings.RestoredMeaning
import Unitae.Territories.BlockedAddress
import Unitae.Base.IpText
import Unitae.Territories.Eligibility
import Unitae.Territories.Statistics
import Unitae.Base.Listing
import Unitae.Territories.ServiceRegister
import Unitae.Territories.ListFilters
import Unitae.Base.WhereObject
import Unitae.Territories.Register
import Unitae.Territories.BuildingList
import Unitae.Territories.TerritoryPages
import Unitae.Territories.EntrancePlaces
import Unitae.Territories.EntranceTotals
import Unitae.Territories.EntranceNeighbours
import Unitae.Base.Derived
import Unitae.Territories.MapIntegrity
import Unitae.Territories.OpenDataSync
import Unitae.Settings.AnonymizedMembers
import Unitae.Publishers.ErasedMembers
import Unitae.Roles.BulkEditors
import Unitae.Board.GroupsSheet
import Unitae.Publishers.InactiveStatus
import Unitae.Publishers.ActivityHistory
import Unitae.Publishers.EnrolmentPace
import Unitae.Settings.LegacyUsers
import Unitae.Events.ProgrammeLink
import Unitae.Events.TemplateCopies
import Unitae.Base.WallClock
import Unitae.Events.GenerationDates
import Unitae.Territories.Dashboard
import Unitae.Territories.AccessibilityFilter
import Unitae.Territories.TerritoryNumbers
import Unitae.Territories.TerritoryEntrances
import Unitae.Territories.ShopNotes
import Unitae.Territories.Coverage
import Unitae.Base.JsonShape
import Unitae.Territories.CardOverlays
import Unitae.Base.ClosedPath
import Unitae.Territories.PointInPolygon
import Unitae.Base.CivilMonths
import Unitae.Settings.RetentionDates
import Unitae.Settings.RetentionSweep
import Unitae.Publishers.IrregularReports
import Unitae.Base.CivilText
import Unitae.Events.LocalTimes
import Unitae.Base.Utf8
import Unitae.Base.UrlEncoded
import Unitae.Base.UrlReference
import Unitae.Authentication.SafeRedirect
import Unitae.Publishers.EnrolmentWorkflow
import Unitae.Publishers.BackfilledStints
import Unitae.Publishers.IdentityMirror
import Unitae.Settings.ImportCongregation
import Unitae.Settings.ImportedIdentities
import Unitae.Settings.ImportMirror
import Unitae.Settings.IdentityRuns
import Unitae.Authentication.MailedLinks
import Unitae.Authentication.StoredHashes
import Unitae.Authentication.TwoFactor
import Unitae.Events.AssignmentCandidates
import Unitae.Events.ShareMessages
import Unitae.Territories.SafeFetch
import Unitae.Storage.LocalFiles
