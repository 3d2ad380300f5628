/-
# Proofs.Json.Names -- the names of an object

A field under a new name is put behind the others, and one under a name that is there takes
its place (`put`).  So of fields that are read one after another each name is left once, with
a field that was among them; fields under names of their own are left as they are.  A name
that was put is found, and the others are found where they were (`lookup_put`).
-/
import GeoRegistry.Json

namespace GeoRegistry.Json

set_option autoImplicit false

variable {α : Type}

/-! ## Finding a field -/

theorem lookup_cons_of_ne {asked name : String} (other : asked ≠ name) (a : α)
    (fields : List (String × α)) : ((name, a) :: fields).lookup asked = fields.lookup asked := by
  rw [List.lookup_cons, beq_false_of_ne other]

theorem lookup_of_fresh {fields : List (String × α)} {name : String}
    (fresh : name ∉ fields.map (·.1)) : fields.lookup name = none := by
  rw [List.lookup_eq_none_iff]
  intro f member
  have other : name ≠ f.1 := fun same => fresh (List.mem_map.2 ⟨f, member, same.symm⟩)
  simpa using other

theorem lookup_of_named {fields : List (String × α)} {name : String}
    (named : name ∈ fields.map (·.1)) : ∃ a, fields.lookup name = some a := by
  cases found : fields.lookup name with
  | some a => exact ⟨a, rfl⟩
  | none =>
      obtain ⟨f, member, rfl⟩ := List.mem_map.1 named
      have other := List.lookup_eq_none_iff.1 found f member
      simp at other

/-! ## One field -/

/-- A new name is put behind the others. -/
theorem put_of_fresh {fields : List (String × α)} {name : String}
    (fresh : name ∉ fields.map (·.1)) (a : α) : put fields name a = fields ++ [(name, a)] := by
  have none_ : (fields.any fun f => f.1 == name) = false := by
    rw [List.any_eq_false]
    intro f member same
    exact fresh (by rw [← eq_of_beq same]; exact List.mem_map_of_mem member)
  rw [put, none_, if_neg (by simp)]

theorem mem_put {fields : List (String × α)} {name : String} {a : α} {f : String × α}
    (member : f ∈ put fields name a) : f ∈ fields ∨ f = (name, a) := by
  unfold put at member
  split at member
  · obtain ⟨g, there, same⟩ := List.mem_map.1 member
    split at same
    · exact .inr same.symm
    · exact .inl (same ▸ there)
  · simpa using member

theorem put_names {fields : List (String × α)} (apart : (fields.map (·.1)).Nodup) (name : String)
    (a : α) : ((put fields name a).map (·.1)).Nodup := by
  unfold put
  split
  · have kept : (fields.map fun f => if f.1 == name then (name, a) else f).map (·.1) =
        fields.map (·.1) := by
      rw [List.map_map]
      refine List.map_congr_left fun f _ => ?_
      by_cases same : f.1 = name <;> simp [same]
    rwa [kept]
  · next fresh =>
    have new : name ∉ fields.map (·.1) := by
      simpa using fresh
    rw [List.map_append, List.map_singleton]
    refine List.nodup_append.2 ⟨apart, by simp, ?_⟩
    intro n member m only same
    obtain rfl := List.mem_singleton.1 only
    exact new (same ▸ member)

theorem lookup_replaced (fields : List (String × α)) (name : String) (a : α) (asked : String) :
    (fields.map fun f => if f.1 == name then (name, a) else f).lookup asked =
      (fields.lookup asked).map fun old => if asked = name then a else old := by
  induction fields with
  | nil => rfl
  | cons f rest ih =>
      obtain ⟨own, old⟩ := f
      by_cases here : asked = own
      · subst here
        by_cases replaced : asked = name <;> simp [replaced]
      · rw [lookup_cons_of_ne here, ← ih, List.map_cons]
        by_cases replaced : own = name
        · subst replaced
          rw [if_pos (beq_self_eq_true _), lookup_cons_of_ne here]
        · rw [if_neg (by simpa using replaced), lookup_cons_of_ne here]

/-- A field is found under its name, and what is there under other names still is. -/
theorem lookup_put (fields : List (String × α)) (name : String) (a : α) (asked : String) :
    (put fields name a).lookup asked = if asked = name then some a else fields.lookup asked := by
  by_cases named : name ∈ fields.map (·.1)
  · have there : (fields.any fun f => f.1 == name) = true := by
      obtain ⟨f, member, same⟩ := List.mem_map.1 named
      exact List.any_eq_true.2 ⟨f, member, beq_iff_eq.2 same⟩
    rw [put, if_pos there, lookup_replaced]
    by_cases here : asked = name
    · obtain ⟨old, found⟩ := lookup_of_named (here ▸ named)
      rw [found, Option.map_some, if_pos here, if_pos here]
    · simp [here]
  · rw [put_of_fresh named, List.lookup_append]
    by_cases here : asked = name
    · rw [lookup_of_fresh (here ▸ named), Option.none_or, if_pos here, here,
        List.lookup_cons, beq_self_eq_true]
    · rw [lookup_cons_of_ne here, if_neg here, List.lookup_nil, Option.or_none]

/-! ## One field after another -/

theorem foldl_put (fields acc : List (String × α))
    (apart : (acc.map (·.1) ++ fields.map (·.1)).Nodup) :
    fields.foldl (fun acc f => put acc f.1 f.2) acc = acc ++ fields := by
  induction fields generalizing acc with
  | nil => simp
  | cons f rest ih =>
      have fresh : f.1 ∉ acc.map (·.1) := fun member =>
        (List.nodup_append.1 apart).2.2 f.1 member f.1 (by simp) rfl
      rw [List.foldl_cons, put_of_fresh fresh, ih]
      · simp
      · simpa using apart

/-- The names stay apart. -/
theorem foldl_put_names (fields : List (String × α)) {acc : List (String × α)}
    (apart : (acc.map (·.1)).Nodup) :
    ((fields.foldl (fun acc f => put acc f.1 f.2) acc).map (·.1)).Nodup := by
  induction fields generalizing acc with
  | nil => exact apart
  | cons f rest ih => exact ih (put_names apart _ _)

/-- Fields under names of their own are found, and what was there under other names still is. -/
theorem lookup_foldl_put (fields acc : List (String × α)) (asked : String)
    (apart : (fields.map (·.1)).Nodup) :
    (fields.foldl (fun acc f => put acc f.1 f.2) acc).lookup asked =
      (fields.lookup asked).or (acc.lookup asked) := by
  induction fields generalizing acc with
  | nil => rfl
  | cons f rest ih =>
      obtain ⟨name, a⟩ := f
      obtain ⟨fresh, apart⟩ := List.nodup_cons.1 apart
      rw [List.foldl_cons, ih _ apart, lookup_put]
      by_cases here : asked = name
      · -- nothing that comes later has this name
        rw [lookup_of_fresh (here ▸ fresh), Option.none_or, if_pos here, here, List.lookup_cons,
          beq_self_eq_true, Option.some_or]
      · rw [if_neg here, lookup_cons_of_ne here]

/-- Where each name stands once nothing is replaced. -/
theorem distinct_of_nodup {fields : List (String × α)}
    (apart : (fields.map (·.1)).Nodup) : distinct fields = fields := by
  rw [distinct, foldl_put fields [] (by simpa using apart), List.nil_append]

/-- What is left of fields that are read one after another was among them. -/
theorem distinct_subset (fields : List (String × α)) : distinct fields ⊆ fields := by
  have kept (fields acc : List (String × α)) :
      fields.foldl (fun acc f => put acc f.1 f.2) acc ⊆ acc ++ fields := by
    induction fields generalizing acc with
    | nil => simp
    | cons f rest ih =>
        intro g member
        rcases List.mem_append.1 (ih _ member) with before | behind
        · rcases mem_put before with old | rfl
          · exact List.mem_append_left _ old
          · simp
        · exact List.mem_append_right _ (.tail _ behind)
  exact kept fields []

theorem distinct_names (fields : List (String × α)) : ((distinct fields).map (·.1)).Nodup :=
  foldl_put_names fields List.nodup_nil

end GeoRegistry.Json
