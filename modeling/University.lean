import University.Fiction.Sized
import University.Main
import University.Proofs.Judgement
import University.Proofs.Chance.Numbers
import University.Proofs.Ends
import University.Proofs.Lockstep
import University.Proofs.Chance.Positions
import University.Proofs.Time.Calendar
import University.Proofs.Time.Moments
import University.Proofs.Time.Months
import University.Proofs.Fiction.Run
import University.Proofs.Decimal.Padded
import University.Proofs.Decimal.Whole
import University.Proofs.Programme.Majors
import University.Proofs.Programme.Exhaustion
import University.Proofs.Programme.Offerings
import University.Proofs.Term.Generate
import University.Proofs.Term.Range
import University.Proofs.Term.Quarters
import University.Proofs.Building.Generate
import University.Proofs.Grading.Generate
import University.Proofs.Subject.Generate
import University.Proofs.Subject.Classes
import University.Proofs.Account.Registry
import University.Proofs.Account.StudentId
import University.Proofs.Account.Admissions
import University.Proofs.Account.Refusals
import University.Proofs.NationalId
import University.Proofs.NationalId.Mistypings
import University.Proofs.Account.Generate
import University.Proofs.Account.Enrolment
import University.Proofs.Ages
import University.Proofs.Forum.Category
import University.Proofs.Forum.Sorts
import University.Proofs.Forum.Post
import University.Proofs.Forum.Provisional
import University.Proofs.Forum.Outcome
import University.Proofs.Forum.Reply
import University.Proofs.Forum.Activity
import University.Proofs.Forum.Engagement
import University.Proofs.Forum.Voting
import University.Proofs.Growth
import University.Proofs.Dataset.Generated
import University.Proofs.Dataset.Rows
import University.Proofs.Dataset.References
import University.Proofs.Dataset.Identifiers
import University.Proofs.Dataset.Distinct
import University.Proofs.Dataset.Outcome
import University.Proofs.Dataset.Chronology
import University.Proofs.Dataset.Keys
import University.Proofs.Dataset.Census
import University.Proofs.Dataset.Stages
import University.Proofs.Dataset.Relocation
import University.Proofs.Dataset.Agreement
import University.Proofs.Files.Tree
import University.Proofs.Files.Staging
import University.Proofs.Files.Saving
import University.Proofs.Slug
import University.Proofs.Seeding.Writes
import University.Proofs.Seeding.Delivery
import University.Proofs.Seeding.Documents
import University.Proofs.Json.Numbers
import University.Proofs.Json.Strings
import University.Proofs.Decimal.Written
import University.Proofs.Json.RoundTrip
import University.Proofs.Time.Texts
import University.Proofs.Table.Fields
import University.Proofs.Table.Documents
import University.Proofs.Table.Renderings
import University.Proofs.Text.Cut
import University.Proofs.Text.Percent
import University.Proofs.Database.Url
import University.Proofs.Text.Ascii
import University.Proofs.Fiction.Extent
import University.Proofs.Double.Rounding
import University.Proofs.Double.Storage
import University.Proofs.Double.Nearest
import University.Proofs.Decimal.Literal
import University.Proofs.Point
