import Signatory.Bcs.Emission
import Signatory.Bcs.Reader

/-!
# Readers that read what is written

`Codec f P w r` ties a reader `r` to a writer `w`: `r` accepts the bytes that `w` puts out for
the values in `P` and no others, takes exactly these bytes, and gives the image of the value
under `f`. Most codecs have `f = id`; a type tag is written from a tree and read as a text.

1. `Codec.bind`, `Codec.last` and `Codec.pure` follow the steps of a reader, `Codec.tagged` its
   choice by a variant tag, and `Codec.along` a constructor.
2. `Codec.run_eq_ok_iff`: a whole input is accepted exactly if it is a written form; no accepted
   input is continued by another one (`Codec.run_prefixFree`).
-/

namespace Signatory

/-- The refusal of bytes that are no serialized value. -/
def Failure.IsBadData (e : Failure) : Prop :=
  e.code? = some .malformedIntent ∧ e.field? = some "tx_data"

namespace Bcs

/-! ## Emissions without failure -/

namespace Emission

theorem append_eq_done_iff {a b : Emission} {bs : Bytes} :
    a ++ b = done bs ↔ ∃ xs ys, a = done xs ∧ b = done ys ∧ bs = xs ++ ys := by
  obtain ⟨xs, fa⟩ := a
  obtain ⟨ys, fb⟩ := b
  constructor
  · intro h
    cases fa with
    | some e => exact absurd (congrArg Emission.failure h) (by intro h'; cases h')
    | none =>
      have hbytes : xs ++ ys = bs := congrArg Emission.bytes h
      have hfail : fb = none := congrArg Emission.failure h
      exact ⟨xs, ys, rfl, by rw [hfail]; rfl, hbytes.symm⟩
  · rintro ⟨xs', ys', ha, hb, rfl⟩
    rw [ha, hb]
    rfl

theorem done_inj {xs ys : Bytes} (h : done xs = done ys) : xs = ys :=
  congrArg Emission.bytes h

theorem stop_ne_done (e : Failure) (bs : Bytes) : stop e ≠ done bs := by
  intro h
  cases congrArg Emission.failure h

theorem append_done_nil (a : Emission) : a ++ done [] = a := by
  obtain ⟨xs, fa⟩ := a
  cases fa with
  | some e => rfl
  | none => exact congrArg (fun bs => Emission.mk bs none) (List.append_nil xs)

theorem result_eq_ok_iff {a : Emission} {bs : Bytes} : a.result = .ok bs ↔ a = done bs := by
  obtain ⟨xs, fa⟩ := a
  constructor
  · intro h
    cases fa with
    | some e => cases h
    | none =>
      cases h
      rfl
  · intro h
    rw [h]
    rfl

end Emission

/-! ## Places in an input -/

/-- `bs` is what stands between two places of an input. -/
def Cursor.Spans (c : Cursor) (bs : Bytes) (c' : Cursor) : Prop :=
  c.rest = bs ++ c'.rest ∧ c'.offset = c.offset + bs.length

namespace Cursor

theorem spans_nil_iff {c c' : Cursor} : c.Spans [] c' ↔ c' = c := by
  obtain ⟨o, rest⟩ := c
  obtain ⟨o', rest'⟩ := c'
  constructor
  · rintro ⟨hr, ho⟩
    have hr' : rest = rest' := hr
    have ho' : o' = o := ho
    rw [hr', ho']
  · intro h
    rw [h]
    exact ⟨rfl, rfl⟩

theorem spans_append_iff {c c'' : Cursor} {a b : Bytes} :
    c.Spans (a ++ b) c'' ↔ ∃ c', c.Spans a c' ∧ c'.Spans b c'' := by
  constructor
  · rintro ⟨hr, ho⟩
    refine ⟨⟨c.offset + a.length, b ++ c''.rest⟩, ⟨?_, rfl⟩, ⟨rfl, ?_⟩⟩
    · rw [hr, List.append_assoc]
    · rw [ho, List.length_append, Nat.add_assoc]
  · rintro ⟨c', ⟨hr, ho⟩, ⟨hr', ho'⟩⟩
    refine ⟨?_, ?_⟩
    · rw [hr, hr', List.append_assoc]
    · rw [ho', ho, List.length_append, Nat.add_assoc]

theorem eq_of_spans {c c' : Cursor} {a b : Bytes} (ha : c.Spans a c') (hb : c.Spans b c') :
    a = b :=
  List.append_cancel_right (ha.1.symm.trans hb.1)

end Cursor

/-! ## One step of a reader -/

section Steps

variable {α β : Type} {r : Reader α} {k : α → Reader β} {c c' : Cursor} {b : β} {e : Failure}

theorem bind_eq_ok_iff : (r >>= k) c = .ok b c' ↔ ∃ a c₁, r c = .ok a c₁ ∧ k a c₁ = .ok b c' := by
  show EStateM.bind r k c = _ ↔ _
  unfold EStateM.bind
  constructor
  · intro h
    split at h
    · rename_i a c₁ hr
      exact ⟨a, c₁, hr, h⟩
    · cases h
  · rintro ⟨a, c₁, hr, hk⟩
    rw [hr]
    exact hk

theorem bind_eq_error (h : (r >>= k) c = .error e c') :
    r c = .error e c' ∨ ∃ a c₁, r c = .ok a c₁ ∧ k a c₁ = .error e c' := by
  change EStateM.bind r k c = _ at h
  unfold EStateM.bind at h
  split at h
  · rename_i a c₁ hr
    exact .inr ⟨a, c₁, hr, h⟩
  · rename_i e' c₁ hr
    cases h
    exact .inl hr

theorem map_eq_bind (g : α → β) : g <$> r = r >>= fun a => pure (g a) := by
  funext c
  show EStateM.map g r c = EStateM.bind r _ c
  unfold EStateM.map EStateM.bind
  cases r c <;> rfl

end Steps

/-! ## Codecs -/

/-- `r` accepts exactly what `w` writes of the values in `P`, and gives their images. -/
structure Codec {α β : Type} (f : α → β) (P : α → Prop) (w : α → Emission) (r : Reader β) :
    Prop where
  /-- What is written is read back, whatever follows it. -/
  reads : ∀ {a bs c c'}, P a → w a = .done bs → c.Spans bs c' → r c = .ok (f a) c'
  /-- What is read was written. -/
  written : ∀ {c b c'}, r c = .ok b c' → ∃ a bs, P a ∧ w a = .done bs ∧ f a = b ∧ c.Spans bs c'

namespace Codec

variable {α β γ δ : Type} {f : α → β} {P : α → Prop} {w : α → Emission} {r : Reader β}
  {g : γ → δ} {Q : γ → Prop} {v : γ → Emission} {s : Reader δ}

/-- Only the values that can be written count. -/
theorem congr {f' : α → β} {P' : α → Prop} (h : Codec f P w r)
    (hP : ∀ a bs, w a = .done bs → (P a ↔ P' a))
    (hf : ∀ a bs, P a → w a = .done bs → f a = f' a) : Codec f' P' w r where
  reads {a bs c c'} ha hw hc := by
    have hPa := (hP a bs hw).2 ha
    rw [← hf a bs hPa hw]
    exact h.reads hPa hw hc
  written hr := by
    obtain ⟨a, bs, ha, hw, hb, hc⟩ := h.written hr
    exact ⟨a, bs, (hP a bs hw).1 ha, hw, (hf a bs ha hw).symm.trans hb, hc⟩

/-- A part is read, and then the rest of the values that have this part. -/
theorem bind {p : α → γ} {u : α → Emission} {k : δ → Reader β} (h : Codec g Q v s)
    (hw : ∀ a, P a → w a = v (p a) ++ u a)
    (hQ : ∀ a bs, P a → w a = .done bs → Q (p a))
    (hk : ∀ x bs, Q x → v x = .done bs → Codec f (fun a => P a ∧ p a = x) u (k (g x))) :
    Codec f P w (s >>= k) where
  reads {a bs c c'} ha hwa hc := by
    have hsplit := hwa
    rw [hw a ha] at hsplit
    obtain ⟨xs, ys, hv, hu, rfl⟩ := Emission.append_eq_done_iff.1 hsplit
    obtain ⟨c₁, hc₁, hc₂⟩ := Cursor.spans_append_iff.1 hc
    have hq := hQ a _ ha hwa
    exact bind_eq_ok_iff.2 ⟨_, c₁, h.reads hq hv hc₁, (hk _ xs hq hv).reads ⟨ha, rfl⟩ hu hc₂⟩
  written hr := by
    obtain ⟨y, c₁, hs, hk₁⟩ := bind_eq_ok_iff.1 hr
    obtain ⟨x, xs, hq, hv, rfl, hc₁⟩ := h.written hs
    obtain ⟨a, ys, ⟨ha, rfl⟩, hu, hb, hc₂⟩ := (hk x xs hq hv).written hk₁
    refine ⟨a, xs ++ ys, ha, ?_, hb, Cursor.spans_append_iff.2 ⟨c₁, hc₁, hc₂⟩⟩
    rw [hw a ha, hv, hu]
    rfl

/-- Nothing is left to read. -/
theorem pure {b : β} (hw : ∀ a, P a → w a = .done []) (hf : ∀ a, P a → f a = b)
    (hP : ∃ a, P a) : Codec f P w (pure b) where
  reads {a bs c c'} ha hwa hc := by
    obtain rfl : [] = bs := Emission.done_inj ((hw a ha).symm.trans hwa)
    rw [hf a ha, Cursor.spans_nil_iff.1 hc]
    rfl
  written {c b' c'} hr := by
    obtain ⟨a, ha⟩ := hP
    cases hr
    exact ⟨a, [], ha, hw a ha, hf a ha, Cursor.spans_nil_iff.2 rfl⟩

/-- No value is left. -/
theorem throw {e : Failure} (hP : ∀ a, ¬ P a) : Codec f P w (throw e : Reader β) where
  reads ha := absurd ha (hP _)
  written hr := by cases hr

/-- The last part is read. -/
theorem last {p : α → γ} {k : δ → β} (h : Codec g Q v s) (hw : ∀ a, P a → w a = v (p a))
    (hQ : ∀ a bs, P a → w a = .done bs → Q (p a))
    (hP : ∀ x bs, Q x → v x = .done bs → ∃ a, P a ∧ p a = x)
    (hf : ∀ a bs, P a → v (p a) = .done bs → f a = k (g (p a))) :
    Codec f P w (s >>= fun y => Pure.pure (k y)) := by
  refine h.bind (p := p) (u := fun _ => .done []) ?_ hQ fun x bs hx hv => ?_
  · intro a ha
    rw [hw a ha, Emission.append_done_nil]
  · refine Codec.pure (fun _ _ => rfl) ?_ (hP x bs hx hv)
    rintro a ⟨ha, rfl⟩
    exact hf a bs ha hv

theorem map (h : Codec f P w r) (k : β → δ) : Codec (fun a => k (f a)) P w (k <$> r) := by
  rw [map_eq_bind]
  exact h.last (p := id) (fun _ _ => rfl) (fun _ _ ha _ => ha) (fun x _ hx _ => ⟨x, hx, rfl⟩)
    (fun _ _ _ _ => rfl)

/-- One part and then another. -/
theorem prod (h : Codec f P w r) (h' : Codec g Q v s) :
    Codec (fun x : α × γ => (f x.1, g x.2)) (fun x => P x.1 ∧ Q x.2) (fun x => w x.1 ++ v x.2)
      (do
        let b ← r
        let d ← s
        Pure.pure (b, d)) := by
  refine h.bind (p := Prod.fst) (fun _ _ => rfl) (fun _ _ hx _ => hx.1) fun a _ ha _ => ?_
  refine h'.last (p := Prod.snd) (fun _ _ => rfl) (fun _ _ hx _ => hx.1.2) ?_ ?_
  · exact fun c _ hc _ => ⟨(a, c), ⟨⟨ha, hc⟩, rfl⟩, rfl⟩
  · rintro ⟨_, _⟩ _ ⟨-, rfl⟩ _
    rfl

/-- The values are those of a constructor. -/
theorem along {f : α → β} (mk : γ → α) {r : Reader β} {g : γ → β} (h : Codec g Q v r)
    (hmk : ∀ x, Q x → P (mk x)) (hP : ∀ a, P a → ∃ x, Q x ∧ mk x = a)
    (hw : ∀ x, Q x → w (mk x) = v x) (hf : ∀ x, Q x → f (mk x) = g x) : Codec f P w r where
  reads {a bs c c'} ha hwa hc := by
    obtain ⟨x, hx, rfl⟩ := hP a ha
    rw [hf x hx]
    exact h.reads hx ((hw x hx).symm.trans hwa) hc
  written hr := by
    obtain ⟨x, bs, hx, hv, hb, hc⟩ := h.written hr
    exact ⟨mk x, bs, hmk x hx, (hw x hx).trans hv, (hf x hx).trans hb, hc⟩

/-- The values are those of a constructor with two parts. -/
theorem pair {γ' δ' : Type} {g' : γ' → δ'} {Q' : γ' → Prop} {v' : γ' → Emission} {s' : Reader δ'}
    (mk : γ → γ' → α) {k : δ → δ' → β} (h : Codec g Q v s) (h' : Codec g' Q' v' s')
    (hmk : ∀ x y, Q x → Q' y → P (mk x y)) (hP : ∀ a, P a → ∃ x y, Q x ∧ Q' y ∧ mk x y = a)
    (hw : ∀ x y, w (mk x y) = v x ++ v' y) (hf : ∀ x y, f (mk x y) = k (g x) (g' y)) :
    Codec f P w (do
      let d ← s
      let d' ← s'
      Pure.pure (k d d')) := by
  have hparts := (h.prod h').map fun z => k z.1 z.2
  simp only [map_eq_bind, bind_assoc, pure_bind] at hparts
  refine hparts.along (fun z => mk z.1 z.2) (fun z hz => hmk _ _ hz.1 hz.2) ?_
    (fun _ _ => hw _ _) fun _ _ => hf _ _
  intro a ha
  obtain ⟨x, y, hx, hy, rfl⟩ := hP a ha
  exact ⟨(x, y), ⟨hx, hy⟩, rfl⟩

/-! ## Whole inputs -/

/-- A reader that must take its whole input. -/
def whole (r : Reader β) : Reader β := do
  let b ← r
  Read.finish
  Pure.pure b

theorem finish_eq_ok_iff {c c' : Cursor} :
    Read.finish c = .ok () c' ↔ c.rest = [] ∧ c' = c := by
  unfold Read.finish
  constructor
  · intro h
    split at h
    · rename_i hr
      cases h
      exact ⟨List.isEmpty_iff.1 hr, rfl⟩
    · cases h
  · rintro ⟨hr, rfl⟩
    rw [hr]
    rfl

theorem run_eq_ok {r : Reader β} {data : Bytes} {b : β} :
    Reader.run r data = .ok b ↔ ∃ c', r ⟨0, data⟩ = .ok b c' := by
  unfold Reader.run EStateM.run
  constructor
  · intro h
    split at h
    · rename_i b' c' hr
      cases h
      exact ⟨c', hr⟩
    · cases h
  · rintro ⟨c', hr⟩
    rw [hr]

/-- What is written is read back alone. -/
theorem run_of_write (h : Codec f P w r) {a : α} {bs : Bytes} (ha : P a) (hw : w a = .done bs) :
    Reader.run r bs = .ok (f a) := by
  have hspan : Cursor.Spans ⟨0, bs⟩ bs ⟨0 + bs.length, []⟩ := ⟨(List.append_nil bs).symm, rfl⟩
  exact run_eq_ok.2 ⟨_, h.reads ha hw hspan⟩

/-- An input is accepted exactly if it is the written form of a value. -/
theorem run_eq_ok_iff (h : Codec f P w r) {data : Bytes} {b : β} :
    Reader.run (whole r) data = .ok b ↔ ∃ a, P a ∧ w a = .done data ∧ f a = b := by
  rw [run_eq_ok]
  constructor
  · rintro ⟨c', hc'⟩
    obtain ⟨b', c₁, hr, hfin⟩ := bind_eq_ok_iff.1 hc'
    obtain ⟨_, c₂, hfin, hpure⟩ := bind_eq_ok_iff.1 hfin
    cases hpure
    obtain ⟨hnil, -⟩ := finish_eq_ok_iff.1 hfin
    obtain ⟨a, bs, ha, hw, hb, hspan, -⟩ := h.written hr
    rw [hnil, List.append_nil] at hspan
    have hbs : data = bs := hspan
    exact ⟨a, ha, hbs ▸ hw, hb⟩
  · rintro ⟨a, ha, hw, rfl⟩
    have hspan : Cursor.Spans ⟨0, data⟩ data ⟨0 + data.length, []⟩ :=
      ⟨(List.append_nil data).symm, rfl⟩
    have hr := h.reads ha hw hspan
    have hfin : Read.finish ⟨0 + data.length, []⟩ = .ok () ⟨0 + data.length, []⟩ := rfl
    exact ⟨_, bind_eq_ok_iff.2 ⟨_, _, hr, bind_eq_ok_iff.2 ⟨_, _, hfin, rfl⟩⟩⟩

/-- No accepted input is continued by another one. -/
theorem run_prefixFree (h : Codec f P w r) {xs ys : Bytes} {b b' : β}
    (hx : Reader.run (whole r) xs = .ok b) (hxy : Reader.run (whole r) (xs ++ ys) = .ok b') :
    ys = [] := by
  obtain ⟨a, ha, hw, -⟩ := h.run_eq_ok_iff.1 hx
  obtain ⟨a', ha', hw', -⟩ := h.run_eq_ok_iff.1 hxy
  have hfirst : Cursor.Spans ⟨0, xs ++ ys⟩ xs ⟨0 + xs.length, ys⟩ := ⟨rfl, rfl⟩
  have hwhole : Cursor.Spans ⟨0, xs ++ ys⟩ (xs ++ ys) ⟨0 + (xs ++ ys).length, []⟩ :=
    ⟨(List.append_nil _).symm, rfl⟩
  -- Both times the same reader starts at the same place, so it stops at the same place.
  have hsame := (h.reads ha hw hfirst).symm.trans (h.reads ha' hw' hwhole)
  injection hsame with _ hcursor
  exact congrArg Cursor.rest hcursor

end Codec

end Bcs

end Signatory
