import Scholarli.Base.Completion
import Scholarli.Base.Dict
import Scholarli.Base.Machine
import Scholarli.Base.Roster
import Scholarli.Base.Shared
import Scholarli.Base.Interleaving
import Scholarli.Base.Timetable
import Scholarli.Base.Within
import Scholarli.Objects.Types
import Scholarli.Objects.Objects
import Scholarli.Objects.Codec
import Scholarli.Objects.Encoding
import Scholarli.Objects.Injectivity
import Scholarli.Objects.Canonical
import Scholarli.Database.Queries
import Scholarli.Database.Handlers
import Scholarli.Database.Usernames
import Scholarli.Database.Store
import Scholarli.SignUp.Account
import Scholarli.SignUp.Verify
import Scholarli.SignUp.SchoolSelector
import Scholarli.SignUp.ChooseClasses
import Scholarli.SignUp.TableRows
import Scholarli.SignUp.Search
import Scholarli.SignUp.Summary
import Scholarli.SignUp.AddClass
import Scholarli.SignUp.ClassForm
import Scholarli.SignUp.Pickers
import Scholarli.SignUp.TeacherPopup
import Scholarli.SignUp.Flow
import Scholarli.SignUp.Record
import Scholarli.SignUp.Provenance
import Scholarli.SignUp.Schedules
import Scholarli.SignUp.Taps
import Scholarli.SignUp.Refusals
import Scholarli.SignUp.Loads
import Scholarli.SignUp.SchoolChoice
import Scholarli.SignUp.Handover
import Scholarli.SignUp.Ledger
import Scholarli.SignUp.Label
import Scholarli.SignUp.Periods
import Scholarli.SignUp.Schools
import Scholarli.SignUp.Checkmarks
import Scholarli.SignUp.CourseCap
import Scholarli.SignUp.Cloud
import Scholarli.SignUp.Backed
import Scholarli.SignUp.Clients
import Scholarli.SignUp.Progress
import Scholarli.SignUp.Published
import Scholarli.SignUp.Timetable
import Scholarli.SignUp.Registration
import Scholarli.SignUp.Navigation
import Scholarli.SignUp.Privacy
