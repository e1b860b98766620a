import GrantConfig.Layer.KeyPath

/-!
# Keys that are dotted names

A key made of names with points between them is the path of those names. A name alone is the path
without steps, so a plain key of a source stands for itself. The other way round, the steps of a path
up to the first position stand in its key one behind the other, each behind a point.
-/

namespace GrantConfig.Layer.KeyPath

/-- Characters that make a name: some, and none of them a point, a bracket or the like. -/
def IsName (cs : List Char) : Prop := cs ≠ [] ∧ ∀ c ∈ cs, isNameChar c = true

/-- Being a name can be evaluated. -/
theorem isName_iff {cs : List Char} :
    IsName cs ↔ cs.isEmpty = false ∧ cs.all isNameChar = true := by
  rw [IsName, List.isEmpty_eq_false_iff, List.all_eq_true]

/-- Names with points between them. -/
def dotted (first : List Char) (rest : List (List Char)) : List Char :=
  first ++ rest.flatMap fun name => '.' :: name

/-- Parts joined by a separator: the first one, and each further one behind the separator. -/
theorem intercalate_cons_eq {α : Type} (sep first : List α) (rest : List (List α)) :
    List.intercalate sep (first :: rest) = first ++ rest.flatMap fun part => sep ++ part := by
  induction rest generalizing first with
  | nil => simp
  | cons second rest ih =>
    rw [List.intercalate_cons_cons, ih, List.flatMap_cons, List.append_assoc, List.append_assoc]

/-- Names between points are a name with points and names behind it. -/
theorem intercalate_eq_dotted (first : List Char) (rest : List (List Char)) :
    List.intercalate ['.'] (first :: rest) = dotted first rest := intercalate_cons_eq _ _ _

/-- Reading a name stops before the point behind it, and at the end. -/
theorem name?_append {name : List Char} (h : IsName name) {rest : List Char}
    (hrest : ∀ c ∈ rest.head?, isNameChar c = false) :
    name? (name ++ rest) = some (String.ofList name, rest) := by
  have htake : rest.takeWhile isNameChar = [] := by
    cases rest with
    | nil => rfl
    | cons c cs => rw [List.takeWhile_cons, hrest c rfl]; rfl
  have hdrop : rest.dropWhile isNameChar = rest := by
    cases rest with
    | nil => rfl
    | cons c cs => rw [List.dropWhile_cons, hrest c rfl]; rfl
  rw [name?, List.takeWhile_append_of_pos h.2, List.dropWhile_append_of_pos h.2, htake, hdrop,
    List.append_nil]
  simp [h.1]

/-- What follows a name of a dotted key begins with a point. -/
theorem head?_points (rest : List (List Char)) :
    ∀ c ∈ (rest.flatMap fun name => '.' :: name).head?, isNameChar c = false := by
  cases rest with
  | nil => simp
  | cons name rest =>
    intro c hc
    obtain rfl : '.' = c := Option.some.inj hc
    decide

/-- Names behind points are read as fields, one after the other. -/
theorem steps?_points {rest : List (List Char)} (h : ∀ name ∈ rest, IsName name) {fuel : Nat}
    (hfuel : (rest.flatMap fun name => '.' :: name).length ≤ fuel) :
    steps? fuel (rest.flatMap fun name => '.' :: name) =
      some (rest.map fun name => .field (String.ofList name)) := by
  induction rest generalizing fuel with
  | nil => cases fuel <;> rfl
  | cons name rest ih =>
    rw [List.flatMap_cons, List.cons_append] at hfuel ⊢
    cases fuel with
    | zero => exact absurd hfuel (Nat.not_succ_le_zero _)
    | succ fuel =>
      have hname := h name List.mem_cons_self
      have hlength : (rest.flatMap fun name => '.' :: name).length ≤ fuel := by
        rw [List.length_cons, List.length_append] at hfuel
        omega
      rw [steps?, if_pos rfl, name?_append hname (head?_points rest)]
      change (steps? fuel (rest.flatMap fun name => '.' :: name)).bind _ = _
      rw [ih (fun other hother => h other (List.mem_cons_of_mem _ hother)) hlength]
      rfl

/-- A dotted key is the path of its names. -/
theorem ofKey_dotted {first : List Char} {rest : List (List Char)}
    (h : ∀ name ∈ first :: rest, IsName name) :
    ofKey (String.ofList (dotted first rest)) =
      ⟨String.ofList first, rest.map fun name => .field (String.ofList name)⟩ := by
  have hfirst := h first List.mem_cons_self
  have hrest := fun name hname => h name (List.mem_cons_of_mem _ hname)
  rw [ofKey, parse?, String.toList_ofList, dotted, name?_append hfirst (head?_points rest)]
  change (((steps? _ (rest.flatMap fun name => '.' :: name)).bind _).getD _) = _
  rw [steps?_points hrest (Nat.le_refl _)]
  rfl

/-- A name alone stands for itself. -/
theorem ofKey_name {key : String} (h : IsName key.toList) : ofKey key = ⟨key, []⟩ := by
  have hkey : ofKey (String.ofList (dotted key.toList [])) = ⟨String.ofList key.toList, []⟩ :=
    ofKey_dotted (by simpa using h)
  rwa [dotted, List.flatMap_nil, List.append_nil, String.ofList_toList] at hkey

/-- A name that is read is cut off in front. -/
theorem eq_append_of_name? {cs rest : List Char} {name : String} (h : name? cs = some (name, rest)) :
    IsName name.toList ∧ cs = name.toList ++ rest := by
  rw [name?] at h
  split at h
  · cases h
  · next hempty =>
    obtain ⟨rfl, rfl⟩ := Prod.mk.inj (Option.some.inj h)
    rw [String.toList_ofList]
    refine ⟨⟨?_, List.all_eq_true.mp List.all_takeWhile⟩, List.takeWhile_append_dropWhile.symm⟩
    simpa using hempty

/-- Names, each behind a point. -/
def points (names : List String) : List Char := names.flatMap fun name => '.' :: name.toList

/-- More names are written behind the others. -/
theorem points_append (names more : List String) :
    points (names ++ more) = points names ++ points more := List.flatMap_append

/-- The characters that write steps, where nothing is said of what follows a bracket. -/
inductive Leads : List Char → List Step → Prop
  | done : Leads [] []
  | field {name : String} {rest : List Char} {steps : List Step} (isName : IsName name.toList)
      (more : Leads rest steps) : Leads ('.' :: (name.toList ++ rest)) (.field name :: steps)
  | position (rest : List Char) (n : Int) (steps : List Step) :
      Leads ('[' :: rest) (.position n :: steps)

/-- Steps that are read are what the characters write. -/
theorem leads_of_steps? {fuel : Nat} {cs : List Char} {steps : List Step}
    (h : steps? fuel cs = some steps) : Leads cs steps := by
  induction fuel generalizing cs steps with
  | zero =>
    cases cs with
    | nil =>
      cases h
      exact .done
    | cons => cases h
  | succ fuel ih =>
    cases cs with
    | nil =>
      cases h
      exact .done
    | cons c rest =>
      rw [steps?] at h
      split at h
      · next hpoint =>
        subst hpoint
        simp only [Option.bind_eq_bind, Option.bind_eq_some_iff] at h
        obtain ⟨⟨name, more⟩, hname, later, hlater, hsteps⟩ := h
        obtain rfl := Option.some.inj hsteps
        obtain ⟨hisName, rfl⟩ := eq_append_of_name? hname
        exact .field hisName (ih hlater)
      · split at h
        · next hbracket =>
          subst hbracket
          simp only [Option.bind_eq_bind, Option.bind_eq_some_iff] at h
          obtain ⟨⟨n, more⟩, _, later, _, hsteps⟩ := h
          obtain rfl := Option.some.inj hsteps
          exact .position rest n later
        · cases h

/-- The characters that write a path behind its first name begin with a point or a bracket. -/
theorem Leads.head {c : Char} {rest : List Char} {steps : List Step} (h : Leads (c :: rest) steps) :
    c = '.' ∨ c = '[' := by
  cases h with
  | field => exact .inl rfl
  | position => exact .inr rfl

/-- The first name of a path ends where a point or a bracket follows for the first time. -/
theorem Leads.cut {first name : String} {rest more : List Char} {steps : List Step}
    (h : Leads more steps) (hname : IsName name.toList) (hpoint : '.' ∉ first.toList)
    (hbracket : '[' ∉ first.toList) (heq : first.toList ++ '.' :: rest = name.toList ++ more) :
    name = first ∧ more = '.' :: rest := by
  rw [← String.toList_inj]
  rcases List.append_eq_append_iff.mp heq with hlong | hshort
  · obtain ⟨further, hname', hrest⟩ := hlong
    cases further with
    | nil => exact ⟨hname'.trans (List.append_nil _), hrest.symm⟩
    | cons c further =>
      obtain rfl := (List.cons.inj hrest).1
      have hmem : '.' ∈ name.toList := by
        rw [hname']
        exact List.mem_append_right _ List.mem_cons_self
      exact absurd (hname.2 _ hmem) (by decide)
  · obtain ⟨further, hfirst, hmore⟩ := hshort
    cases further with
    | nil => exact ⟨(hfirst.trans (List.append_nil _)).symm, hmore⟩
    | cons c further =>
      have hmem : c ∈ first.toList := by
        rw [hfirst]
        exact List.mem_append_right _ List.mem_cons_self
      rw [hmore, List.cons_append] at h
      rcases h.head with rfl | rfl
      · exact absurd hmem hpoint
      · exact absurd hmem hbracket

/-- A key in which a point follows some characters for the first time is a path behind the name that
they make, or it stands for itself. -/
theorem ofKey_cases {key first : String} {rest : List Char} (hpoint : '.' ∉ first.toList)
    (hbracket : '[' ∉ first.toList) (hkey : key.toList = first.toList ++ '.' :: rest) :
    ofKey key = ⟨key, []⟩ ∨
      IsName first.toList ∧ ∃ steps, Leads ('.' :: rest) steps ∧ ofKey key = ⟨first, steps⟩ := by
  rw [ofKey, parse?]
  cases hname : name? key.toList with
  | none => exact .inl rfl
  | some found =>
    obtain ⟨name, more⟩ := found
    obtain ⟨hisName, heq⟩ := eq_append_of_name? hname
    cases hsteps : steps? more.length more with
    | none =>
      simp only [Option.bind_eq_bind, Option.bind_some, hsteps]
      exact .inl rfl
    | some steps =>
      have hleads := leads_of_steps? hsteps
      obtain ⟨rfl, rfl⟩ := hleads.cut hisName hpoint hbracket (hkey.symm.trans heq)
      simp only [Option.bind_eq_bind, Option.bind_some, hsteps]
      exact .inr ⟨hisName, steps, hleads, rfl⟩

/-- Without brackets, a path is made of names. -/
theorem Leads.exists_names {cs : List Char} {steps : List Step} (h : Leads cs steps)
    (hbracket : '[' ∉ cs) :
    ∃ names : List String, steps = names.map .field ∧ cs = points names ∧
      ∀ name ∈ names, IsName name.toList := by
  induction h with
  | done => exact ⟨[], rfl, rfl, List.forall_mem_nil _⟩
  | position rest n steps => exact absurd List.mem_cons_self hbracket
  | @field name rest steps hname _ ih =>
    obtain ⟨names, rfl, rfl, hnames⟩ := ih fun hmem =>
      hbracket (List.mem_cons_of_mem _ (List.mem_append_right _ hmem))
    exact ⟨name :: names, rfl, rfl, List.forall_mem_cons.mpr ⟨hname, hnames⟩⟩

/-- A key is another one, or a point follows that one in it. -/
def Within (key other : String) : Prop := key = other ∨ other.toList ++ ['.'] <+: key.toList

/-- Two keys of which one lies within the other. -/
def Overlap (key other : String) : Prop := Within key other ∨ Within other key

instance (key other : String) : Decidable (Within key other) := inferInstanceAs (Decidable (_ ∨ _))

instance (key other : String) : Decidable (Overlap key other) := inferInstanceAs (Decidable (_ ∨ _))

/-- A path that goes on behind another one lies within it. -/
theorem within_of_points {key other : String} {names more : List String}
    (hkey : '.' :: key.toList = points (names ++ more)) (hother : '.' :: other.toList = points names) :
    Within key other := by
  rw [points_append, ← hother] at hkey
  cases more with
  | nil =>
    left
    rw [← String.toList_inj]
    exact (List.cons.inj (hkey.trans (List.append_nil _))).2
  | cons next more =>
    right
    rw [(List.cons.inj hkey).2]
    exact ⟨next.toList ++ points more, by simp [points]⟩

end GrantConfig.Layer.KeyPath
