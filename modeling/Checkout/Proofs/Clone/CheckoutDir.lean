import Checkout.Clone.Request
import Checkout.Proofs.FileSystem.Component

/-!
# The directory of the checkout

`validate` looks at the components of the subdirectory and `checkoutDir` joins the text. The two agree: what
is accepted is a relative path name without double dots, and joining such a one to the output directory adds
names to it.

Results:
* `validate_eq_ok_iff`: the requests that are accepted;
* `checkout_dir_confined`: where the checkout of such a request goes.
-/

namespace Checkout.CloneRequest

open Pathname

theorem isAbsolute_eq_false_iff {path : ByteString} :
    isAbsolute path = false ↔ path.toList.head? ≠ some slash := by
  unfold isAbsolute
  exact beq_eq_false_iff_ne

/-- A subdirectory is accepted if it does not begin with a slash and no segment of it is a double dot. -/
theorem validateSubdirectory_eq_ok_iff {path : String} :
    validateSubdirectory path = .ok () ↔
      (path : ByteString).toList.head? ≠ some slash ∧ (".." : ByteString) ∉ segments path := by
  unfold validateSubdirectory
  rw [← isAbsolute_eq_false_iff, ← parent_mem_components_iff]
  by_cases habs : isAbsolute path = true
  · rw [if_pos habs]
    simp [habs]
  · by_cases hup : .parent ∈ components path
    · rw [if_neg habs, if_pos (List.contains_iff_mem.mpr hup)]
      simp [hup]
    · rw [if_neg habs, if_neg (mt List.contains_iff_mem.mp hup)]
      simp [habs, hup]

/-- **The requests that are accepted.** -/
theorem validate_eq_ok_iff {r : CloneRequest} :
    r.validate = .ok () ↔
      r.url ≠ "" ∧ 0 ≤ r.depth ∧ 0 ≤ r.mergeSourceDepth ∧
        ∀ path, r.subdirectory = some path →
          (path : ByteString).toList.head? ≠ some slash ∧ (".." : ByteString) ∉ segments path := by
  unfold validate
  by_cases hurl : r.url = ""
  · rw [if_pos hurl]
    exact iff_of_false nofun fun h => h.1 hurl
  rw [if_neg hurl]
  by_cases hdepth : r.depth < 0
  · rw [if_pos hdepth]
    exact iff_of_false nofun fun h => absurd hdepth (Int.not_lt.mpr h.2.1)
  rw [if_neg hdepth]
  by_cases hmerge : r.mergeSourceDepth < 0
  · rw [if_pos hmerge]
    exact iff_of_false nofun fun h => absurd hmerge (Int.not_lt.mpr h.2.2.1)
  rw [if_neg hmerge]
  have hfields : r.url ≠ "" ∧ 0 ≤ r.depth ∧ 0 ≤ r.mergeSourceDepth := ⟨hurl, by omega, by omega⟩
  cases r.subdirectory with
  | none => simp [hfields]
  | some path =>
    rw [validateSubdirectory_eq_ok_iff]
    simp [hfields]

/-- The subdirectory as a path name, an empty one if there is none. -/
def inner (r : CloneRequest) : ByteString := r.subdirectory.getD ""

/-- Whether there is a subdirectory or not, an empty one counts as none. -/
theorem checkoutDir_eq (r : CloneRequest) :
    r.checkoutDir = if r.inner = "" then r.outputDir else join r.outputDir r.inner := by
  unfold checkoutDir inner
  cases r.subdirectory with
  | none => rfl
  | some path => simp

theorem inner_of_valid {r : CloneRequest} (hvalid : r.validate = .ok ()) :
    isAbsolute r.inner = false ∧ (".." : ByteString) ∉ segments r.inner := by
  have hsub := (validate_eq_ok_iff.mp hvalid).2.2.2
  unfold inner
  cases hpath : r.subdirectory with
  | none => decide
  | some path => exact ⟨isAbsolute_eq_false_iff.mpr (hsub path hpath).1, (hsub path hpath).2⟩

/-- **The directory of the checkout is confined** as text. A request is accepted just if its address is not
empty, its depths are not negative, and its subdirectory, if it has one, neither begins with a slash nor has a
double dot among its segments. The directory of its checkout then begins with all components of the output
directory; after them come the segments of the subdirectory in their order, without the empty ones and the
dots, and before these a dot at most. -/
theorem checkout_dir_confined (r : CloneRequest) :
    (r.validate = .ok () ↔
      r.url ≠ "" ∧ 0 ≤ r.depth ∧ 0 ≤ r.mergeSourceDepth ∧
        ∀ path, r.subdirectory = some path →
          (path : ByteString).toList.head? ≠ some slash ∧ (".." : ByteString) ∉ segments path) ∧
    (r.validate = .ok () →
      ∃ lead, (lead = [] ∨ lead = [Component.current]) ∧
        components r.checkoutDir =
          components r.outputDir ++ (lead ++ (steps r.inner).map Component.name) ∧
        (".." : ByteString) ∉ steps r.inner) := by
  refine ⟨validate_eq_ok_iff, fun hvalid => ?_⟩
  obtain ⟨hrel, hup⟩ := inner_of_valid hvalid
  have hsteps : (".." : ByteString) ∉ steps r.inner := fun hmem => hup (mem_steps_iff.mp hmem).1
  rw [checkoutDir_eq]
  by_cases hinner : r.inner = ""
  · refine ⟨[], Or.inl rfl, ?_, hsteps⟩
    rw [if_pos hinner, hinner]
    exact (List.append_nil _).symm
  · obtain ⟨lead, hlead, hjoin⟩ := exists_components_join r.outputDir hrel hup
    rw [if_neg hinner]
    exact ⟨lead, hlead, hjoin, hsteps⟩

/-- Dots and repeated slashes in the names of both directories do not matter. -/
theorem checkout_dir_confined_spelled_loosely :
    let r : CloneRequest :=
      { CloneRequest.new "https://git.example/r" with
        outputDir := "/work//./out/", subdirectory := some "./a//./dir..name/" }
    r.validate = .ok () ∧
      ∃ lead, (lead = [] ∨ lead = [Component.current]) ∧
        components "/work//./out/./a//./dir..name/" =
          components "/work//./out/" ++ (lead ++ [Component.name "a", Component.name "dir..name"]) ∧
        (".." : ByteString) ∉ (["a", "dir..name"] : List ByteString) := by
  intro r
  have hvalid : r.validate = .ok () := by rfl
  have hjoined : r.checkoutDir = "/work//./out/./a//./dir..name/" := by decide
  have hsteps : steps r.inner = ["a", "dir..name"] := by decide +kernel
  obtain ⟨lead, hlead, hcomponents, hup⟩ := (checkout_dir_confined r).2 hvalid
  rw [hjoined, hsteps] at hcomponents
  rw [hsteps] at hup
  exact ⟨hvalid, lead, hlead, hcomponents, hup⟩

end Checkout.CloneRequest
