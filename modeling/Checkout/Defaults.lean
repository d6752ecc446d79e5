import Checkout.Text.ByteString

/-!
# Names and defaults
-/

namespace Checkout.Defaults

/-- The CA bundle that is used if it exists and no other is configured. -/
def caBundlePath : ByteString := "/mnt/trusted-ca/ca-bundle.crt"

def originRemote : String := "origin"

/-- The remote for a merge source that is another repository. -/
def mergeSourceRemote : String := "merge-source"

/-- What the last fetch brought. -/
def fetchHead : String := "FETCH_HEAD"

def mergeCommitEmail : String := "git-clone@pipeline-helper.invalid"

def mergeCommitName : String := "Pipeline Helper Git Clone"

def depth : Int := 1

def mergeSourceDepth : Int := 0

def shortCommitLength : Nat := 7

def targetBranch : String := "main"

def retryMaxAttempts : Nat := 10

def outputDir : ByteString := "."

/-- The CA bundle to look for. -/
def caBundle (configured : Option ByteString) : ByteString := configured.getD caBundlePath

end Checkout.Defaults
