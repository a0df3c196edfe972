import Unshare.Stack
import Unshare.Memory.Api
import Unshare.Json.Printer
import Unshare.Proofs.Addressing
import Unshare.Proofs.Pipeline
import Unshare.Proofs.Courses
import Unshare.Proofs.Characters
import Unshare.Proofs.Guard
import Unshare.Proofs.Escapes
import Unshare.Proofs.History
import Unshare.Proofs.Landing
import Unshare.Proofs.FailClosed
import Unshare.Proofs.PermissionPath
import Unshare.Proofs.Admitted
import Unshare.Proofs.Bounding
import Unshare.Proofs.Warnings
import Unshare.Proofs.BodyFirst
import Unshare.Proofs.Computations
import Unshare.Proofs.Lockout
import Unshare.Proofs.ReadPaths
import Unshare.Proofs.Containment
import Unshare.Proofs.Answers
import Unshare.Proofs.Signing
import Unshare.Proofs.Commuting
import Unshare.Proofs.Writing
import Unshare.Proofs.Printing
import Unshare.Proofs.Forms
import Unshare.Proofs.Interchange
import Unshare.Proofs.LostRecords
import Unshare.Proofs.Attribution
import Unshare.Proofs.Transactions
import Unshare.Proofs.Telling
import Unshare.Proofs.Bookkeeping
import Unshare.Proofs.Reasons
import Unshare.Proofs.Rejections
import Unshare.Proofs.TokenUse
import Unshare.Proofs.Lifetimes
import Unshare.Proofs.Commands
import Unshare.Proofs.Finding
import Unshare.Proofs.Tables
import Unshare.Proofs.Atomicity
import Unshare.Proofs.Readback
import Unshare.Proofs.Paging
import Unshare.Proofs.Identifying
import Unshare.Proofs.Listing
import Unshare.Proofs.Encodings
import Unshare.Proofs.PlainNames
import Unshare.Proofs.Demands
import Unshare.Proofs.Startup
import Unshare.Proofs.Numerals
import Unshare.Proofs.Markup
import Unshare.Proofs.Protection
import Unshare.Proofs.Recording
import Unshare.Proofs.Sourcing
import Unshare.Proofs.Readiness
import Unshare.Proofs.RoundTrips
import Unshare.Proofs.Construction
import Unshare.Proofs.Classification
import Unshare.Proofs.Credentials
import Unshare.Proofs.MissingParts
import Unshare.Proofs.Calendar
import Unshare.Proofs.Chronology
