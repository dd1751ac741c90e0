import SelectBuilder.Logging.Logger

/-!
# The namespace of loggers

A name lies in the namespace of the root name if it is that name or extends it by a dot. A logger
whose parents lead to the root name has such a name. The converse needs more: where a further dot
comes right after the first one, the parents may pass the root name over.
-/
namespace SelectBuilder.Logging

variable {name p : String} {loggers : List String}

/-- The name is that of the root, or it extends that by a dot. -/
def Namespaced (name : String) : Prop := name = rootName ∨ ∃ rest, name = rootName ++ "." ++ rest

/-- No further dot comes right after the one that extends the name of the root. -/
def Direct (name : String) : Prop :=
  name = rootName ∨ ∃ rest, name = rootName ++ "." ++ rest ∧ rest.toList.head? ≠ some '.'

theorem Direct.namespaced (direct : Direct name) : Namespaced name :=
  direct.imp_right fun ⟨rest, same, _⟩ => ⟨rest, same⟩

theorem Namespaced.isPrefix (inside : Namespaced name) : rootName.toList <+: name.toList := by
  rcases inside with rfl | ⟨rest, rfl⟩
  · exact List.prefix_rfl
  · simp [String.toList_append, List.append_assoc]

/-! ## Parents -/

theorem mem_parentsOfReversed {cs q : List Char} (h : q ∈ parentsOfReversed cs) :
    ∃ before, cs = before ++ '.' :: q.reverse := by
  fun_induction parentsOfReversed cs with
  | case1 => cases h
  | case2 c before ih =>
    rcases List.mem_cons.mp h with rfl | h
    · exact ⟨[], by simp⟩
    · obtain ⟨between, rfl⟩ := ih h
      exact ⟨'.' :: c :: between, rfl⟩
  | case3 c rest _ ih =>
    obtain ⟨before, rfl⟩ := ih h
    exact ⟨c :: before, rfl⟩

/-- A dot gives a parent unless another dot follows it. -/
theorem mem_parentsOfReversed_append (c : Char) (before : List Char) {cs : List Char}
    (apart : cs.getLast? ≠ some '.') :
    (c :: before).reverse ∈ parentsOfReversed (cs ++ '.' :: c :: before) := by
  fun_induction parentsOfReversed cs with
  | case1 => simp [parentsOfReversed]
  | case2 d rest ih =>
    have later := ih (by grind)
    simp only [List.cons_append, parentsOfReversed, List.mem_cons]
    exact .inr later
  | case3 d rest single ih =>
    have plain : d ≠ '.' := by
      rintro rfl
      cases rest with
      | nil => simp at apart
      | cons e rest => exact single e rest rfl rfl
    rw [List.cons_append, parentsOfReversed.eq_3]
    · exact ih (by grind)
    · exact fun _ _ dot => absurd dot plain

theorem eq_append_of_mem_parents (h : p ∈ parents name) : ∃ rest, name = p ++ "." ++ rest := by
  obtain ⟨q, among, rfl⟩ := List.mem_map.mp h
  obtain ⟨before, spelled⟩ := mem_parentsOfReversed among
  refine ⟨String.ofList before.reverse, String.toList_inj.mp ?_⟩
  simpa [String.toList_append] using congrArg List.reverse spelled

/-- The parents of a name in the namespace may be outside, but what they extend to is inside. -/
theorem Namespaced.of_parent (inside : Namespaced p) (h : p ∈ parents name) : Namespaced name := by
  obtain ⟨rest, rfl⟩ := eq_append_of_mem_parents h
  rcases inside with rfl | ⟨between, rfl⟩
  · exact .inr ⟨rest, rfl⟩
  · exact .inr ⟨between ++ "." ++ rest, by simp only [String.append_assoc]⟩

theorem Direct.root_mem_parents (direct : Direct name) (other : name ≠ rootName) :
    rootName ∈ parents name := by
  obtain ⟨rest, rfl, apart⟩ := direct.resolve_left other
  have spelled : (rootName ++ "." ++ rest).toList.reverse =
      rest.toList.reverse ++ '.' :: 'n' :: "iahcyreuq".toList := by
    simp [String.toList_append, rootName]
  refine List.mem_map.mpr ⟨rootName.toList, ?_, String.ofList_toList⟩
  rw [spelled]
  exact mem_parentsOfReversed_append 'n' _ (by simpa using apart)

theorem Direct.parent (direct : Direct name) (h : p ∈ parents name) : Direct p := by
  obtain ⟨after, split⟩ := eq_append_of_mem_parents h
  rcases direct with rfl | ⟨rest, rfl, apart⟩
  · have none : parents rootName = [] := by decide +kernel
    rw [none] at h
    cases h
  · have chars : rootName.toList ++ '.' :: rest.toList = p.toList ++ '.' :: after.toList := by
      simpa [String.toList_append] using congrArg String.toList split
    rcases List.append_eq_append_iff.mp chars with ⟨between, longer, tail⟩ | ⟨between, shorter, tail⟩
    · cases between with
      | nil => exact .inl (String.toList_inj.mp (by simpa using longer))
      | cons dot between =>
        obtain ⟨rfl, tail⟩ := List.cons.inj tail
        refine .inr ⟨String.ofList between, String.toList_inj.mp ?_, ?_⟩
        · simpa [String.toList_append] using longer
        · grind [String.toList_ofList]
    · cases between with
      | nil => exact .inl (String.toList_inj.mp (by simpa using shorter.symm))
      | cons dot between =>
        -- The name of the root holds no dot.
        obtain ⟨rfl, -⟩ := List.cons.inj tail
        have dotted : '.' ∈ rootName.toList := by rw [shorter]; simp
        exact absurd dotted (by decide)

theorem length_lt_of_mem_parents (h : p ∈ parents name) : p.length < name.length := by
  obtain ⟨rest, rfl⟩ := eq_append_of_mem_parents h
  simp only [String.length_append]
  have dot : ".".length = 1 := rfl
  omega

/-! ## Loggers below the root name -/

theorem namespaced_of_leadsToRoot {n : Nat} (h : leadsToRoot loggers n name = true) :
    Namespaced name := by
  induction n generalizing name with
  | zero => exact .inl (by simpa [leadsToRoot] using h)
  | succ n ih =>
    simp only [leadsToRoot, Bool.or_eq_true, beq_iff_eq, Option.any_eq_true] at h
    rcases h with h | ⟨p, nearest, leads⟩
    · exact .inl h
    · exact (ih leads).of_parent (List.mem_of_find?_eq_some nearest)

theorem namespaced_of_isBelowRoot (h : isBelowRoot loggers name = true) : Namespaced name :=
  namespaced_of_leadsToRoot h

theorem Direct.leadsToRoot (root : rootName ∈ loggers) {n : Nat} (direct : Direct name)
    (enough : name.length ≤ n) : leadsToRoot loggers n name = true := by
  induction n generalizing name with
  | zero =>
    have long := direct.namespaced.isPrefix.length_le
    have counted : rootName.length = 10 := rfl
    simp only [String.length_toList] at long
    omega
  | succ n ih =>
    simp only [Logging.leadsToRoot, Bool.or_eq_true, beq_iff_eq, Option.any_eq_true]
    by_cases same : name = rootName
    · exact .inl same
    · right
      cases nearest : (parents name).find? loggers.contains with
      | none =>
        have absent := List.find?_eq_none.mp nearest _ (direct.root_mem_parents same)
        simp [root] at absent
      | some p =>
        have among := List.mem_of_find?_eq_some nearest
        have shorter := length_lt_of_mem_parents among
        exact ⟨p, rfl, ih (direct.parent among) (by omega)⟩

theorem Direct.isBelowRoot (root : rootName ∈ loggers) (direct : Direct name) :
    isBelowRoot loggers name = true :=
  direct.leadsToRoot root (Nat.le_refl _)

/-! ## Names that are asked for -/

theorem qualify_of_isPrefix (h : rootName.toList <+: name.toList) : qualify name = name := by
  simp [qualify, h]

theorem qualify_of_not_isPrefix (h : ¬ rootName.toList <+: name.toList) :
    qualify name = rootName ++ "." ++ name := by
  simp [qualify, h]

theorem isPrefix_qualify (name : String) : rootName.toList <+: (qualify name).toList := by
  by_cases h : rootName.toList <+: name.toList
  · rwa [qualify_of_isPrefix h]
  · rw [qualify_of_not_isPrefix h]
    exact Namespaced.isPrefix (.inr ⟨name, rfl⟩)

/-- A qualified name is not qualified any further. -/
@[simp] theorem qualify_qualify (name : String) : qualify (qualify name) = qualify name :=
  qualify_of_isPrefix (isPrefix_qualify name)

/-- Only a name that begins as that of the root, and does not go on with a dot, is kept out of the
namespace. -/
theorem namespaced_qualify :
    Namespaced (qualify name) ↔ (rootName.toList <+: name.toList → Namespaced name) := by
  by_cases h : rootName.toList <+: name.toList
  · simp [qualify_of_isPrefix h, h]
  · simp only [qualify_of_not_isPrefix h, h, false_imp_iff, iff_true]
    exact .inr ⟨name, rfl⟩

theorem direct_append {rest : String} :
    Direct (rootName ++ "." ++ rest) ↔ rest.toList.head? ≠ some '.' := by
  constructor
  · rintro (same | ⟨after, same, apart⟩)
    · have longer := congrArg String.length same
      have dot : ".".length = 1 := rfl
      simp only [String.length_append] at longer
      omega
    · rwa [(String.append_right_inj _).mp same]
  · exact fun apart => .inr ⟨rest, rfl, apart⟩

/-- The names whose loggers surely lie below the root name, once they are asked for. -/
theorem direct_qualify :
    Direct (qualify name) ↔
      Direct name ∨ ¬ rootName.toList <+: name.toList ∧ name.toList.head? ≠ some '.' := by
  by_cases h : rootName.toList <+: name.toList
  · simp [qualify_of_isPrefix h, h]
  · have outside : ¬ Direct name := fun direct => h direct.namespaced.isPrefix
    rw [qualify_of_not_isPrefix h, direct_append]
    simp [outside, h]

end SelectBuilder.Logging
