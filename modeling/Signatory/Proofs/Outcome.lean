/-!
# Outcomes

Steps that give a value or an error, one after the other. A value comes out only if each step gives
one, and an error only if one of them does (`FailsIn.bind`).
-/

namespace Signatory.Outcome

variable {α β ε : Type}

theorem bind_eq_ok_iff {x : Except ε α} {k : α → Except ε β} {b : β} :
    x >>= k = .ok b ↔ ∃ a, x = .ok a ∧ k a = .ok b := by
  constructor
  · intro h
    cases x with
    | error e => cases h
    | ok a => exact ⟨a, rfl, h⟩
  · rintro ⟨a, rfl, h⟩
    exact h

theorem bind_of_eq_ok {x : Except ε α} {a : α} (h : x = .ok a) (k : α → Except ε β) :
    x >>= k = k a := by
  rw [h]
  rfl

theorem bind_of_eq_error {x : Except ε α} {e : ε} (h : x = .error e) (k : α → Except ε β) :
    x >>= k = .error e := by
  rw [h]
  rfl

theorem map_eq_ok_iff {x : Except ε α} {g : α → β} {b : β} :
    g <$> x = .ok b ↔ ∃ a, x = .ok a ∧ g a = b := by
  constructor
  · intro h
    cases x with
    | error e => cases h
    | ok a =>
      cases h
      exact ⟨a, rfl, rfl⟩
  · rintro ⟨a, rfl, rfl⟩
    rfl

/-- A value that is given on a condition. -/
theorem ite_eq_ok_iff {p : Prop} [Decidable p] {a b : α} {e : ε} :
    (if p then .ok a else .error e) = (.ok b : Except ε α) ↔ p ∧ a = b := by
  by_cases hp : p
  · rw [if_pos hp, Except.ok.injEq, and_iff_right hp]
  · rw [if_neg hp]
    exact iff_of_false (fun h => by cases h) fun h => hp h.1

theorem not_exists_of_eq_error {x : Except ε α} {e : ε} (h : x = .error e) : ¬ ∃ a, x = .ok a := by
  rintro ⟨a, ha⟩
  cases ha.symm.trans h

theorem exists_of_isOk {x : Except ε α} (h : x.isOk = true) : ∃ a, x = .ok a := by
  cases x with
  | error e => cases h
  | ok a => exact ⟨a, rfl⟩

/-- A list of steps gives a list of values exactly if each step gives its value. -/
theorem mapM_eq_ok_iff {f : α → Except ε β} {as : List α} : ∀ {bs : List β}, as.mapM f = .ok bs ↔
    ∃ ps : List (α × β), ps.map (·.1) = as ∧ ps.map (·.2) = bs ∧ ∀ p ∈ ps, f p.1 = .ok p.2 := by
  induction as with
  | nil =>
    intro bs
    constructor
    · intro h
      cases h
      exact ⟨[], rfl, rfl, List.forall_mem_nil _⟩
    · rintro ⟨ps, hps, rfl, -⟩
      rw [List.map_eq_nil_iff.1 hps]
      rfl
  | cons a as ih =>
    intro bs
    rw [List.mapM_cons]
    constructor
    · intro h
      obtain ⟨b, hb, h⟩ := bind_eq_ok_iff.1 h
      obtain ⟨bs', hbs, h⟩ := bind_eq_ok_iff.1 h
      cases h
      obtain ⟨ps, rfl, rfl, hps⟩ := ih.1 hbs
      exact ⟨(a, b) :: ps, rfl, rfl, List.forall_mem_cons.2 ⟨hb, hps⟩⟩
    · rintro ⟨ps, hps, rfl, h⟩
      obtain ⟨p, ps, rfl, rfl, rfl⟩ := List.map_eq_cons_iff.1 hps
      obtain ⟨hp, hps⟩ := List.forall_mem_cons.1 h
      rw [hp, ih.2 ⟨ps, rfl, rfl, hps⟩]
      rfl

theorem length_of_mapM_eq_ok {f : α → Except ε β} {as : List α} {bs : List β}
    (h : as.mapM f = .ok bs) : bs.length = as.length := by
  obtain ⟨ps, rfl, rfl, -⟩ := mapM_eq_ok_iff.1 h
  rw [List.length_map, List.length_map]

/-- Each value of a list comes from one of the steps. -/
theorem exists_of_mapM_eq_ok {f : α → Except ε β} {as : List α} {bs : List β}
    (h : as.mapM f = .ok bs) : ∀ b ∈ bs, ∃ a, f a = .ok b := by
  obtain ⟨ps, -, rfl, hps⟩ := mapM_eq_ok_iff.1 h
  exact List.forall_mem_map.2 fun p hp => ⟨p.1, hps p hp⟩

theorem mapM_eq_ok {f : α → Except ε β} {g : α → β} {as : List α}
    (h : ∀ a ∈ as, f a = .ok (g a)) : as.mapM f = .ok (as.map g) := by
  refine mapM_eq_ok_iff.2 ⟨as.map fun a => (a, g a), ?_, ?_, List.forall_mem_map.2 h⟩
  · rw [List.map_map]
    exact List.map_id as
  · rw [List.map_map]
    rfl

/-- Steps that have one error among them fail with it if any of them fails. -/
theorem mapM_eq_error {f : α → Except ε β} {as : List α} {e : ε}
    (h : ∀ a ∈ as, (∃ b, f a = .ok b) ∨ f a = .error e) (he : ∃ a ∈ as, f a = .error e) :
    as.mapM f = .error e := by
  induction as with
  | nil =>
    obtain ⟨a, ha, -⟩ := he
    exact (List.not_mem_nil ha).elim
  | cons a as ih =>
    obtain ⟨ha, has⟩ := List.forall_mem_cons.1 h
    rw [List.mapM_cons]
    rcases ha with ⟨b, hb⟩ | hfails
    · have hrest : ∃ a' ∈ as, f a' = .error e := by
        obtain ⟨a', ha', hfails⟩ := he
        rcases List.mem_cons.1 ha' with rfl | ha'
        · cases hb.symm.trans hfails
        · exact ⟨a', ha', hfails⟩
      rw [hb, ih has hrest]
      rfl
    · rw [hfails]
      rfl

/-! ## Errors -/

/-- Every error is of a kind. -/
def FailsIn (P : ε → Prop) (x : Except ε α) : Prop :=
  ∀ e, x = .error e → P e

section Errors

variable {P Q : ε → Prop}

theorem failsIn_ok (a : α) : FailsIn P (.ok a) := by
  intro e h
  cases h

theorem failsIn_error {e : ε} (h : P e) : FailsIn P (.error e : Except ε α) := by
  intro e' h'
  cases h'
  exact h

theorem failsIn_of_eq_ok {x : Except ε α} {a : α} (h : x = .ok a) : FailsIn P x := by
  rw [h]
  exact failsIn_ok a

theorem FailsIn.imp {x : Except ε α} (hx : FailsIn P x) (h : ∀ e, P e → Q e) : FailsIn Q x :=
  fun e he => h e (hx e he)

theorem FailsIn.bind {x : Except ε α} {k : α → Except ε β} (hx : FailsIn P x)
    (hk : ∀ a, x = .ok a → FailsIn P (k a)) : FailsIn P (x >>= k) := by
  cases x with
  | error e => exact failsIn_error (hx e rfl)
  | ok a => exact hk a rfl

theorem FailsIn.map {x : Except ε α} {f : α → β} (hx : FailsIn P x) : FailsIn P (f <$> x) := by
  cases x with
  | error e => exact failsIn_error (hx e rfl)
  | ok a => exact failsIn_ok (f a)

theorem FailsIn.mapM {f : α → Except ε β} {as : List α} (h : ∀ a ∈ as, FailsIn P (f a)) :
    FailsIn P (as.mapM f) := by
  induction as with
  | nil => exact failsIn_ok []
  | cons a as ih =>
    obtain ⟨ha, has⟩ := List.forall_mem_cons.1 h
    rw [List.mapM_cons]
    exact ha.bind fun b _ => (ih has).bind fun bs _ => failsIn_ok (b :: bs)

end Errors

end Signatory.Outcome
