import Checkout.Clone.JsonText
import Checkout.Machine

/-!
# The result of a checkout

The record that a checkout leaves: the commit, its short name and time, the URL, and the merge commit
if there was a merge. `json` writes it as one line.
-/

namespace Checkout

/-- What a checkout brought. -/
structure CloneResult where
  url : String
  commit : String
  shortCommit : String
  commitTimestamp : String
  mergedSha : Option String
  deriving DecidableEq, Repr

/-- A result as it is kept, each text by itself. -/
structure ResultRecord where
  commit : String
  shortCommit : String
  url : String
  commitTimestamp : String
  mergedSha : Option String
  /-- The URL under the name that attestation reads. -/
  attestedUrl : String
  /-- The commit under the name that attestation reads. -/
  attestedCommit : String
  deriving DecidableEq, Repr

namespace ResultRecord

/-- The fields of the record with their names, in order. -/
def fields (r : ResultRecord) : List (String × String) :=
  [("commit", r.commit), ("shortCommit", r.shortCommit), ("url", r.url),
    ("commitTimestamp", r.commitTimestamp)] ++
  (r.mergedSha.map ("mergedSha", ·)).toList ++
  [("CHAINS-GIT_URL", r.attestedUrl), ("CHAINS-GIT_COMMIT", r.attestedCommit)]

/-- The record as one line of JSON. -/
def json (r : ResultRecord) : String := String.ofList (jsonObject r.fields)

end ResultRecord

namespace CloneResult

/-- The record of a result. The URL and the commit appear a second time under the names that attestation
reads. -/
def record (r : CloneResult) : ResultRecord :=
  ⟨r.commit, r.shortCommit, r.url, r.commitTimestamp, r.mergedSha, r.url, r.commit⟩

/-- The fields of the record with their names, in order. -/
def fields (r : CloneResult) : List (String × String) := r.record.fields

/-- The record as one line of JSON. -/
def json (r : CloneResult) : String := r.record.json

/-- Writes the record to a file. -/
def writeTo {ρ : Type} (r : CloneResult) (path : ByteString) : Run ρ Unit := do
  Run.writeFile path (Text.encode r.json)
  write .debug .result s!"Wrote result into '{path}':\n{r.json}"

end CloneResult

end Checkout
