import Checkout.Defaults
import Checkout.Error
import Checkout.FileSystem.Pathname

/-!
# Clone requests

What a checkout is asked to do. `validate` refuses requests that make no sense, without looking at
anything but the request; `checkoutDir` is where the checkout goes.
-/

namespace Checkout

/-- What a checkout is asked to do. Depth zero means the full history. -/
structure CloneRequest where
  url : String
  revision : Option String
  refspec : Option String
  depth : Int
  submodules : Bool
  submodulePaths : List String
  sparseCheckoutDirectories : List String
  outputDir : ByteString
  subdirectory : Option String
  deleteExisting : Bool
  enableSymlinkCheck : Bool
  fetchTags : Bool
  mergeTargetBranch : Bool
  targetBranch : String
  mergeSourceRepoUrl : Option String
  mergeSourceDepth : Int
  retryMaxAttempts : Nat
  shortCommitLength : Nat
  basicAuthDirectory : Option ByteString
  sshDirectory : Option ByteString
  caBundlePath : Option ByteString
  sslVerify : Bool
  deriving DecidableEq, Repr

namespace CloneRequest

/-- A full checkout of the default revision into the working directory. -/
def new (url : String) : CloneRequest where
  url := url
  revision := none
  refspec := none
  depth := 0
  submodules := false
  submodulePaths := []
  sparseCheckoutDirectories := []
  outputDir := Defaults.outputDir
  subdirectory := none
  deleteExisting := false
  enableSymlinkCheck := true
  fetchTags := false
  mergeTargetBranch := false
  targetBranch := Defaults.targetBranch
  mergeSourceRepoUrl := none
  mergeSourceDepth := 0
  retryMaxAttempts := Defaults.retryMaxAttempts
  shortCommitLength := Defaults.shortCommitLength
  basicAuthDirectory := none
  sshDirectory := none
  caBundlePath := none
  sslVerify := true

/-- The path name of a subdirectory stays inside: it is relative and has no double dots. -/
def validateSubdirectory (path : String) : Except Error Unit :=
  if Pathname.isAbsolute path then
    .error (.validation s!"subdirectory must be a relative path, got absolute path: {path}")
  else if (Pathname.components path).contains .parent then
    .error (.validation s!"subdirectory must not contain path traversal (..): {path}")
  else .ok ()

/-- Refuses a request that makes no sense. -/
def validate (r : CloneRequest) : Except Error Unit :=
  if r.url = "" then .error (.validation "url parameter is required")
  else if r.depth < 0 then .error (.validation "depth must be >= 0 (0 means full history)")
  else if r.mergeSourceDepth < 0 then
    .error (.validation "merge-source-depth must be >= 0 (0 means full history)")
  else
    match r.subdirectory with
    | some path => validateSubdirectory path
    | none => .ok ()

/-- The directory of the checkout: the output directory or the subdirectory in it. -/
def checkoutDir (r : CloneRequest) : ByteString :=
  match r.subdirectory with
  | some path => if path = "" then r.outputDir else Pathname.join r.outputDir path
  | none => r.outputDir

/-- What the fetch from origin asks for: the refspec, else the revision, where empty ones count as
none. -/
def fetchRefspec (r : CloneRequest) : Option String :=
  (r.refspec.filter (· ≠ "")).or (r.revision.filter (· ≠ ""))

/-- The depth as a number of commits. -/
def fetchDepth (r : CloneRequest) : Nat := r.depth.toNat

/-- The depth of the fetch from the merge source as a number of commits. -/
def mergeFetchDepth (r : CloneRequest) : Nat := r.mergeSourceDepth.toNat

/-- How often a fetch may be tried. -/
def fetchAttempts (r : CloneRequest) : Nat := max r.retryMaxAttempts 1

end CloneRequest

end Checkout
