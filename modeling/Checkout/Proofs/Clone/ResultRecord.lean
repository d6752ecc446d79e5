import Checkout.Clone.Result
import Checkout.Proofs.Json.RoundTrip

/-!
# The record of a result is read back

Results:
* `ResultRecord.fields_injective`: a record is known from its fields;
* `record_read_back`: what is read of the line of a record.
-/

namespace Checkout

/-- **A record is known from its fields**: there is one more just if there was a merge. -/
theorem ResultRecord.fields_injective : Function.Injective ResultRecord.fields := by
  rintro ⟨commit, short, url, time, merged, attestedUrl, attestedCommit⟩
    ⟨commit', short', url', time', merged', attestedUrl', attestedCommit'⟩ h
  cases merged <;> cases merged' <;> simp_all [fields]

theorem Json.member_injective : Function.Injective Json.member := by
  rintro ⟨name, text⟩ ⟨name', text'⟩ h
  simpa [Json.member] using h

/-- **The record of a result is read back.** Its line has no control character. Read as JSON it is an object with
the names of the fields in order, the merge commit among them just if there was a merge, and with the texts of
the record as they were. So different records have different lines. -/
theorem record_read_back (r : ResultRecord) :
    (∀ c ∈ r.json.toList, 0x20 ≤ c.toNat) ∧
      Json.ofText? r.json = some (.object
        ([("commit", .string r.commit), ("shortCommit", .string r.shortCommit), ("url", .string r.url),
          ("commitTimestamp", .string r.commitTimestamp)] ++
        (r.mergedSha.map fun sha => ("mergedSha", Json.string sha)).toList ++
        [("CHAINS-GIT_URL", .string r.attestedUrl), ("CHAINS-GIT_COMMIT", .string r.attestedCommit)])) ∧
      ∀ r' : ResultRecord, r'.json = r.json ↔ r' = r := by
  have hread : ∀ r : ResultRecord, Json.ofText? r.json = some (.object (r.fields.map Json.member)) :=
    fun r => Json.ofText?_jsonObject r.fields
  refine ⟨fun c hc => ?_, ?_, fun r' => ⟨fun h => ?_, congrArg ResultRecord.json⟩⟩
  · unfold ResultRecord.json at hc
    rw [String.toList_ofList] at hc
    exact Json.le_toNat_of_mem_jsonObject hc
  · rw [hread]
    cases hmerged : r.mergedSha with
    | none => simp [ResultRecord.fields, Json.member, hmerged]
    | some sha => simp [ResultRecord.fields, Json.member, hmerged]
  · have hsame := hread r'
    rw [h, hread r, Option.some.injEq, Json.object.injEq] at hsame
    exact ResultRecord.fields_injective (List.map_injective_iff.mpr Json.member_injective hsame.symm)

end Checkout
