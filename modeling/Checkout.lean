import Checkout.Main
import Checkout.Process.Scripted
import Checkout.Proofs.Clone.Plan
import Checkout.Proofs.Retry.Law
import Checkout.Proofs.Symlink.Survey
import Checkout.Proofs.Clone.Carry
import Checkout.Proofs.Clone.Sequence
import Checkout.Proofs.Agreement
import Checkout.Proofs.Clone.SetUp
import Checkout.Proofs.Clone.Refinement
import Checkout.Proofs.FileSystem.Pathname
import Checkout.Proofs.FileSystem.Trail
import Checkout.Proofs.Symlink.Soundness
import Checkout.Proofs.Url.Userinfo
import Checkout.Proofs.Git.Twin
import Checkout.Proofs.Clone.Secrecy
import Checkout.Proofs.Clone.MergeFlow
import Checkout.Proofs.Clone.MergedBranch
import Checkout.Proofs.Clone.Operand
import Checkout.Proofs.Clone.Head
import Checkout.Proofs.FileSystem.Child
import Checkout.Proofs.Triple
import Checkout.Proofs.Credentials.PrivateDir
import Checkout.Proofs.Credentials.Isolation
import Checkout.Proofs.Credentials.Store
import Checkout.Proofs.FileSystem.View
import Checkout.Proofs.FileSystem.Sight
import Checkout.Proofs.Clone.Lockstep
import Checkout.Proofs.FileSystem.Outline
import Checkout.Proofs.Clone.Room
import Checkout.Proofs.Credentials.Discretion
import Checkout.Proofs.Clone.Noninterference
import Checkout.Proofs.FileSystem.Aside
import Checkout.Proofs.Git.Film
import Checkout.Proofs.Clone.Ground
import Checkout.Proofs.Clone.Footprint
import Checkout.Proofs.Git.Report
import Checkout.Proofs.Credentials.Variables
import Checkout.Proofs.Clone.Context
import Checkout.Proofs.Clone.EarlyFailure
import Checkout.Proofs.Clone.CaBundle
import Checkout.Proofs.Retry.Ceiling
import Checkout.Proofs.Clone.CheckoutDir
import Checkout.Proofs.FileSystem.Descent
import Checkout.Proofs.Clone.Clearing
import Checkout.Proofs.Clone.OptionalSteps
import Checkout.Proofs.Retry.Backoff
import Checkout.Proofs.Workspace
import Checkout.Proofs.Symlink.Exactness
import Checkout.Proofs.Redaction
import Checkout.Proofs.Number.Numeral
import Checkout.Proofs.Text.Pieces
import Checkout.Proofs.Text.CodeTable
import Checkout.Proofs.Text.Utf8
import Checkout.Proofs.Git.Version
import Checkout.Proofs.Credentials.HelperLines
import Checkout.Proofs.Credentials.Keys
import Checkout.Proofs.Clone.MergeSource
import Checkout.Proofs.Retry.Tightening
import Checkout.Proofs.Text.LowerCase
import Checkout.Proofs.Retry.StopText
import Checkout.Proofs.Json.Reader
import Checkout.Proofs.Json.RoundTrip
import Checkout.Proofs.Clone.ResultRecord
import Checkout.Proofs.Clone.Csv
