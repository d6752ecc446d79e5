import Checkout.Proofs.FileSystem.Component
import Checkout.Proofs.FileSystem.Locate

/-!
# Going down

A path name without double dots that is seen from a directory leads down from it, name by name, as long as
it meets no link. What it leads to behind a link can be anywhere.

Results:
* `Trail.descend`: where names without double dots lead;
* `locate_join_descends`: what is found under a path name that is joined to the one of a directory.
-/

namespace Checkout.FileSystem

variable {fs : FileSystem} {admits admits' : Location → Bool} {n : Nat} {here l base : Location}
  {names : List ByteString} {dir path : ByteString} {e : Entry}

/-- On the way along names down from a location stands a link. -/
def LinkOnWay (fs : FileSystem) (base : Location) (names : List ByteString) : Prop :=
  ∃ front target, front ≠ [] ∧ front <+: names ∧ fs.get? (base ++ front) = some (.link target)

/-- A link further down is on the way too. -/
theorem LinkOnWay.cons {name : ByteString} (h : LinkOnWay fs (base ++ [name]) names) :
    LinkOnWay fs base (name :: names) := by
  obtain ⟨front, target, -, hfront, hlink⟩ := h
  rw [List.append_assoc] at hlink
  exact ⟨name :: front, target, List.cons_ne_nil _ _, List.cons_prefix_cons.mpr ⟨rfl, hfront⟩, hlink⟩

/-- A trail needs no more than the locations on it. -/
theorem Trail.widen (h : Trail fs admits n here names l) (hadmits : ∀ l, admits l = true → admits' l = true) :
    Trail fs admits' n here names l := by
  have hasks : ∀ {dir name}, Asks fs admits dir name → Asks fs admits' dir name :=
    fun ha => { ha with admitted := hadmits _ ha.admitted }
  induction h with
  | stop he => exact .stop he
  | stay hname hdir _ ih => exact .stay hname hdir ih
  | up hname hdir _ ih => exact .up hname hdir ih
  | down ha he hlink _ ih => exact .down (hasks ha) he hlink ih
  | link ha he htarget _ ih => exact .link (hasks ha) he htarget ih

/-- A path name leads to one location, whichever way it is asked for. -/
theorem eq_of_canonicalize (hdir : fs.canonicalize here dir = .ok base)
    (hfound : fs.locate here dir = .ok (l, e)) : l = base := by
  obtain ⟨_, -, hbase⟩ := exists_trail_names hdir
  obtain ⟨_, -, htrail⟩ := exists_trail_of_locate hfound
  exact (htrail.unique (hbase.widen fun _ _ => rfl)).2

/-- **Names without double dots lead down**, or there is a link on their way. -/
theorem Trail.descend (h : Trail fs admits n here names l) (hup : (".." : ByteString) ∉ names) :
    l = here ++ names.filter (· ≠ ("." : ByteString)) ∨
      LinkOnWay fs here (names.filter (· ≠ ("." : ByteString))) := by
  induction h with
  | stop _ => exact Or.inl (List.append_nil _).symm
  | stay hname _ _ ih =>
    subst hname
    rw [List.filter_cons_of_neg (by decide)]
    exact ih fun hmem => hup (List.mem_cons_of_mem _ hmem)
  | up hname _ _ _ =>
    subst hname
    exact absurd List.mem_cons_self hup
  | down ha _ _ _ ih =>
    rw [List.filter_cons_of_pos (by simpa using ha.notCurrent)]
    rcases ih fun hmem => hup (List.mem_cons_of_mem _ hmem) with hdown | hlink
    · exact Or.inl (by rw [hdown, List.append_assoc, List.singleton_append])
    · exact Or.inr hlink.cons
  | @link _ here _ name target rest ha he _ _ _ =>
    rw [List.filter_cons_of_pos (by simpa using ha.notCurrent)]
    exact Or.inr ⟨[name], target, List.cons_ne_nil _ _, ⟨_, rfl⟩, he⟩

/-- **What is joined to the path name of a directory** is found below it, where the steps lead to, or there
is a link on their way. -/
theorem locate_join_descends (hrel : Pathname.isAbsolute path = false)
    (hup : (".." : ByteString) ∉ Pathname.segments path) (hdir : fs.canonicalize here dir = .ok base)
    (hfound : fs.locate here (Pathname.join dir path) = .ok (l, e)) :
    l = base ++ Pathname.steps path ∨ LinkOnWay fs base (Pathname.steps path) := by
  obtain ⟨hpathname, -⟩ := canonicalize_eq_ok_iff.mp hdir
  obtain ⟨hne, -⟩ := Pathname.isPathname_iff.mp hpathname
  obtain ⟨i, -, hbase⟩ := exists_trail_names hdir
  obtain ⟨n, -, htrail⟩ := exists_trail_of_locate hfound
  rw [startOf_eq_of_isAbsolute_eq (Pathname.isAbsolute_join hne hrel), Pathname.names_join hne hrel]
    at htrail
  obtain ⟨_, _, mid, -, hfront, hrest⟩ := htrail.exists_of_append
  -- The canonical path name and the walk for the whole path name pass through the same directory.
  obtain ⟨-, rfl⟩ := hfront.unique (hbase.widen fun _ _ => rfl)
  rw [Pathname.steps_eq_filter_names]
  refine hrest.descend fun hmem => hup ?_
  rw [Pathname.names_eq_filter] at hmem
  exact (List.mem_filter.mp hmem).1

end Checkout.FileSystem
