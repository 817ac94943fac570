import Signatory.Proofs.Bcs.Locality

/-!
# Readers that may give up

Reading nested values takes room. A reader without enough of it gives up, which is no refusal of
the bytes.

1. `IsBounded m r r'`: `r` reads like `r'`, but may give up where at least `m` bytes remain. It
   gives up for what it has read, so more bytes at the end do not help.
2. Bounded readers make bounded readers (`IsBounded.bind`, `IsBounded.seq`); the variant tag of a
   value pays for one level of nesting (`IsBounded.afterLength`).
3. The same of whole inputs: `run_agrees`, `run_fails`, `run_stays`.
-/

namespace Signatory.Bcs

theorem not_isBadData_nestedTooDeep : ¬ Failure.nestedTooDeep.IsBadData := by
  rintro ⟨h, -⟩
  cases h

/-- `r` reads like `r'`, but may give up. -/
structure IsBounded {α : Type} (m : Nat) (r r' : Reader α) : Prop where
  isLocal : IsLocal r
  /-- What is not given up is read alike. -/
  agrees : ∀ c, r c = r' c ∨ ∃ c', r c = .error .nestedTooDeep c'
  /-- Nothing else is refused than malformed bytes. -/
  fails : ∀ {c e c'}, r c = .error e c' → e.IsBadData ∨ e = .nestedTooDeep
  /-- What is given up is given up with any bytes behind it. -/
  stays : ∀ {c d c' : Cursor} {zs : Bytes}, r c = .error .nestedTooDeep c' →
    d.rest = c.rest ++ zs → ∃ d', r d = .error .nestedTooDeep d'
  /-- Short inputs are not given up. -/
  pays : ∀ {c c'}, r c = .error .nestedTooDeep c' → m ≤ c.rest.length

namespace IsBounded

variable {α β : Type} {m : Nat} {r r' : Reader α} {k k' : α → Reader β}

/-- A reader that only refuses malformed bytes never gives up. -/
theorem same (hlocal : IsLocal r) (hbad : ∀ {c e c'}, r c = .error e c' → e.IsBadData) :
    IsBounded m r r where
  isLocal := hlocal
  agrees _ := .inl rfl
  fails h := .inl (hbad h)
  stays h := absurd (hbad h) not_isBadData_nestedTooDeep
  pays h := absurd (hbad h) not_isBadData_nestedTooDeep

/-- Giving up at once. -/
theorem giveUp (r' : Reader α) : IsBounded 0 (throw .nestedTooDeep) r' where
  isLocal := IsLocal.throw _
  agrees c := .inr ⟨c, rfl⟩
  fails h := by
    cases h
    exact .inr rfl
  stays {c d c' zs} _ _ := ⟨d, rfl⟩
  pays _ := Nat.zero_le _

theorem pure (a : α) : IsBounded m (Pure.pure a : Reader α) (Pure.pure a) :=
  same (IsLocal.pure a) fun h => by cases h

theorem refuse {e : Failure} (he : e.IsBadData) :
    IsBounded m (throw e : Reader α) (throw e) := by
  refine same (IsLocal.throw e) fun h => ?_
  cases h
  exact he

theorem weaken {m' : Nat} (h : IsBounded m r r') (hm : m' ≤ m) : IsBounded m' r r' :=
  { h with pays := fun hr => Nat.le_trans hm (h.pays hr) }

theorem bind (hr : IsBounded m r r') (hk : ∀ a, IsBounded m (k a) (k' a)) :
    IsBounded m (r >>= k) (r' >>= k') where
  isLocal := hr.isLocal.bind fun a => (hk a).isLocal
  agrees c := by
    cases h : r c with
    | error e c₁ =>
      rcases hr.agrees c with h' | ⟨c', h'⟩
      · rw [bind_of_error h, bind_of_error (h'.symm.trans h)]
        exact .inl rfl
      · exact .inr ⟨c', bind_of_error h'⟩
    | ok a c₁ =>
      rcases hr.agrees c with h' | ⟨c', h'⟩
      · rw [bind_of_ok h, bind_of_ok (h'.symm.trans h)]
        exact (hk a).agrees c₁
      · exact .inr ⟨c', bind_of_error h'⟩
  fails h := by
    rcases bind_eq_error h with h | ⟨a, c₁, -, h⟩
    · exact hr.fails h
    · exact (hk a).fails h
  stays {c d c' zs} h hd := by
    rcases bind_eq_error h with h | ⟨a, c₁, ha, h⟩
    · obtain ⟨d', hd'⟩ := hr.stays h hd
      exact ⟨d', bind_of_error hd'⟩
    · -- The first reader takes the same bytes from the longer input.
      obtain ⟨bs, hbs⟩ := hr.isLocal.takes c
      rw [after_of_ok ha] at hbs
      have hspan : d.Spans bs ⟨d.offset + bs.length, c₁.rest ++ zs⟩ := by
        refine ⟨?_, rfl⟩
        rw [hd, hbs.1, List.append_assoc]
      obtain ⟨d', hd'⟩ := (hk a).stays h (d := ⟨d.offset + bs.length, c₁.rest ++ zs⟩) rfl
      exact ⟨d', (bind_of_ok (hr.isLocal.gives ha hbs hspan)).trans hd'⟩
  pays {c c'} h := by
    rcases bind_eq_error h with h | ⟨a, c₁, ha, h⟩
    · exact hr.pays h
    · obtain ⟨bs, hbs⟩ := hr.isLocal.takes c
      rw [after_of_ok ha] at hbs
      have hpays := (hk a).pays h
      rw [hbs.1, List.length_append]
      omega

theorem map (h : IsBounded m r r') (g : α → β) : IsBounded m (g <$> r) (g <$> r') := by
  rw [map_eq_bind, map_eq_bind]
  exact h.bind fun a => pure (g a)

theorem items (h : IsBounded m r r') (n : Nat) :
    IsBounded m (Read.items r n) (Read.items r' n) := by
  induction n with
  | zero => exact pure []
  | succ n ih => exact h.bind fun a => ih.bind fun as => pure (a :: as)

/-! ## Reads -/

theorem length : IsBounded m Read.length Read.length :=
  same Read.isLocal_length fun h => lengthFrom_refuses 5 h

theorem take (n : Int) : IsBounded m (Read.take n) (Read.take n) := by
  refine same (Read.isLocal_take n) fun {c e c'} h => ?_
  unfold Read.take at h
  dsimp only at h
  split at h
  · cases h
    exact isBadData_unreadable _
  · cases h

theorem uint (w : Width) : IsBounded m (Read.uint w) (Read.uint w) :=
  (take w.bytes).bind fun _ => pure _

theorem boolean : IsBounded m Read.boolean Read.boolean := by
  refine (same Read.isLocal_byte byte_eq_error).bind fun b => ?_
  split
  · exact refuse (isBadData_unreadable _)
  · exact pure _

theorem byteVec : IsBounded m Read.byteVec Read.byteVec :=
  length.bind fun n => take n

theorem string : IsBounded m Read.string Read.string := by
  refine byteVec.bind fun bs => ?_
  split
  · exact pure _
  · exact refuse (isBadData_unreadable _)

theorem seq (h : IsBounded m r r') : IsBounded m (Read.seq r) (Read.seq r') :=
  length.bind fun n => h.items n

/-- A length takes a byte. -/
theorem afterLength {k k' : Nat → Reader β} (hk : ∀ n, IsBounded m (k n) (k' n)) :
    IsBounded (m + 1) (Read.length >>= k) (Read.length >>= k') := by
  refine { length.bind hk with pays := fun {c c'} h => ?_ }
  rcases bind_eq_error h with h | ⟨n, c₁, hn, h⟩
  · exact absurd (lengthFrom_refuses 5 h) not_isBadData_nestedTooDeep
  · obtain ⟨_, bs, -, hw, -, hbs⟩ := Codec.length.written hn
    have hpos := pos_of_length_eq_done hw
    have hpays := (hk n).pays h
    rw [hbs.1, List.length_append]
    omega

/-! ## Whole inputs -/

/-- A value that is read, but not by the bounded reader, is given up. -/
theorem gives_up {γ : Type} {f : γ → α} {P P' : γ → Prop} {w : γ → Emission}
    (h : IsBounded m r r') (hr : Codec f P w r) (hr' : Codec f P' w r') {v : γ} {bs : Bytes}
    {c c' : Cursor} (hv : P' v) (hw : w v = .done bs) (hc : c.Spans bs c')
    (hnone : ∀ u, P u → w u ≠ .done bs) : ∃ d, r c = .error .nestedTooDeep d := by
  rcases h.agrees c with hsame | hgiven
  · rw [hr'.reads hv hw hc] at hsame
    obtain ⟨u, bs', hu, hwu, -, hc'⟩ := hr.written hsame
    obtain rfl : bs' = bs := Cursor.eq_of_spans hc' hc
    exact absurd hwu (hnone u hu)
  · exact hgiven

section Runs

variable {data : Bytes} {e : Failure} {c' : Cursor} {a : α}

theorem run_of_error (h : r ⟨0, data⟩ = .error e c') :
    Reader.run (Codec.whole r) data = .error e := by
  have hwhole : Codec.whole r ⟨0, data⟩ = .error e c' := bind_of_error h
  unfold Reader.run EStateM.run
  rw [hwhole]

/-- Behind a value nothing may remain. -/
theorem run_of_ok (h : r ⟨0, data⟩ = .ok a c') : Reader.run (Codec.whole r) data =
    if c'.rest.isEmpty then .ok a else .error (.unreadable (.trailing c'.rest.length)) := by
  have hwhole : Codec.whole r ⟨0, data⟩ = (Read.finish >>= fun _ => Pure.pure a) c' :=
    bind_of_ok h
  unfold Reader.run EStateM.run
  rw [hwhole]
  by_cases hrest : c'.rest.isEmpty = true
  · have hfinish : Read.finish c' = .ok () c' := if_pos hrest
    rw [bind_of_ok hfinish, if_pos hrest]
    rfl
  · have hfinish : Read.finish c' = .error (.unreadable (.trailing c'.rest.length)) c' :=
      if_neg hrest
    rw [bind_of_error hfinish, if_neg hrest]

theorem run_agrees (h : IsBounded m r r') (data : Bytes) :
    Reader.run (Codec.whole r) data = Reader.run (Codec.whole r') data ∨
      Reader.run (Codec.whole r) data = .error .nestedTooDeep := by
  rcases h.agrees ⟨0, data⟩ with hsame | ⟨c', hgiven⟩
  · cases hr : r ⟨0, data⟩ with
    | error e c' =>
      rw [run_of_error hr, run_of_error (hsame.symm.trans hr)]
      exact .inl rfl
    | ok a c' =>
      rw [run_of_ok hr, run_of_ok (hsame.symm.trans hr)]
      exact .inl rfl
  · exact .inr (run_of_error hgiven)

theorem run_fails (h : IsBounded m r r') (hrun : Reader.run (Codec.whole r) data = .error e) :
    e.IsBadData ∨ e = .nestedTooDeep ∧ m ≤ data.length := by
  cases hr : r ⟨0, data⟩ with
  | error e' c' =>
    rw [run_of_error hr] at hrun
    cases hrun
    refine (h.fails hr).imp_right fun he => ⟨he, ?_⟩
    rw [he] at hr
    exact h.pays hr
  | ok a c' =>
    rw [run_of_ok hr] at hrun
    split at hrun
    · cases hrun
    · cases hrun
      exact .inl (isBadData_unreadable _)

theorem run_stays (h : IsBounded m r r')
    (hrun : Reader.run (Codec.whole r) data = .error .nestedTooDeep) (zs : Bytes) :
    Reader.run (Codec.whole r) (data ++ zs) = .error .nestedTooDeep := by
  cases hr : r ⟨0, data⟩ with
  | error e c' =>
    rw [run_of_error hr] at hrun
    cases hrun
    obtain ⟨d', hd'⟩ := h.stays hr (d := ⟨0, data ++ zs⟩) rfl
    exact run_of_error hd'
  | ok a c' =>
    rw [run_of_ok hr] at hrun
    split at hrun <;> cases hrun

end Runs

end IsBounded

end Signatory.Bcs
