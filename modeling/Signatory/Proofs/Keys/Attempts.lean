import Mathlib.Logic.Function.Basic
import Signatory.Proofs.Keys.Failing

/-!
# Attempts to sign one payload

Several callers try to sign the same payload once each, with a backend and a handle of their own.
An attempt is taken apart into steps: the handle is checked, the message is taken out of the
payload, the primitive signs it. The steps of all callers come in any order, and a handle may be
released between any two of them.

1. `Attempts.run_alone`: an attempt that nothing comes between is `Backend.sign`.
2. `Attempts.Tracks` is what each step keeps (`Tracks.move`), so what every run keeps
   (`Tracks.run`).
3. `Attempts.signed_once`: the message is signed at most once, the payload is consumed from the
   first attempt with a handle of its backend's curve on, and later ones are refused.
-/

namespace Signatory

/-! ## Backends and handles -/

namespace KeyHandle

theorem curve_release (k : KeyHandle) : k.release.curve = k.curve := by
  unfold release
  split <;> rfl

/-- A handle, if there is one, as it was given or released. -/
def IsStateOf (key k : Option KeyHandle) : Prop :=
  k = key ∨ k = key.map release

theorem IsStateOf.release {key k : Option KeyHandle} (h : IsStateOf key k) :
    IsStateOf key (k.map release) := by
  rcases h with rfl | rfl
  · exact .inr rfl
  · refine .inr ?_
    cases key with
    | none => rfl
    | some key => exact congrArg some key.release_release

end KeyHandle

namespace Backend

variable {b : Backend} {key : Option KeyHandle} {k : KeyHandle} {p : Payload}

/-- There is a handle, and it belongs to the curve of the backend. -/
def Accepts (b : Backend) (key : Option KeyHandle) : Prop :=
  ∃ k, key = some k ∧ k.curve = b.curve

theorem accepts_some_iff : b.Accepts (some k) ↔ k.curve = b.curve := by
  constructor
  · rintro ⟨k', hk, hcurve⟩
    rwa [Option.some.inj hk]
  · exact fun h => ⟨k, rfl, h⟩

theorem accepts_release_iff : b.Accepts (key.map .release) ↔ b.Accepts key := by
  cases key with
  | none => exact Iff.rfl
  | some k => rw [Option.map_some, accepts_some_iff, accepts_some_iff, KeyHandle.curve_release]

theorem accepts_of_isStateOf {k : Option KeyHandle} (h : KeyHandle.IsStateOf key k) :
    b.Accepts k ↔ b.Accepts key := by
  rcases h with rfl | rfl
  · exact Iff.rfl
  · exact accepts_release_iff

theorem checkHandle_of_accepts (h : k.curve = b.curve) : b.checkHandle (some k) = .ok k :=
  if_pos h

theorem exists_refusal (h : ¬ b.Accepts key) : ∃ f, b.checkHandle key = .error f := by
  cases key with
  | none => exact ⟨_, rfl⟩
  | some k => exact ⟨_, if_neg fun hk => h (accepts_some_iff.2 hk)⟩

theorem sign_of_refusal {f : Failure} (h : b.checkHandle key = .error f) :
    b.sign p key = (.fail f, p) := by
  unfold sign
  rw [h]

theorem sign_of_consumed (h : k.curve = b.curve) (hp : p.consumed = true) :
    b.sign p (some k) = (.fail .payloadConsumed, p) := by
  unfold sign
  rw [checkHandle_of_accepts h]
  dsimp only
  rw [Payload.consume, if_pos hp]

theorem sign_of_fresh (h : k.curve = b.curve) (hp : p.consumed = false) :
    b.sign p (some k) = (b.signMessage p.message k, { p with consumed := true }) := by
  unfold sign
  rw [checkHandle_of_accepts h]
  dsimp only
  rw [Payload.consume, hp, if_neg Bool.false_ne_true]

end Backend

/-- The message that an event hands to a primitive to be signed. -/
def Event.signed? : Event → Option Bytes
  | .primitive _ (.sign message) => some message
  | _ => none

/-- A message is signed once, or not at all if the handle was released. -/
theorem Backend.signed_signMessage (b : Backend) (message : Bytes) (key : KeyHandle) :
    (b.signMessage message key).events.filterMap Event.signed? = [] ∨
      (b.signMessage message key).events.filterMap Event.signed? = [message] := by
  unfold signMessage
  rw [Traced.events_bind]
  unfold KeyHandle.material
  split
  · exact .inl rfl
  · refine .inr ?_
    simp only [Traced.result_liftM, Traced.events_bind]
    cases b.primitives.sign message key.buffer with
    | ok value => rfl
    | error f => rfl

/-! ## An attempt, step by step -/

/-- How far an attempt to sign has come. -/
inductive Attempt where
  | begun (key : Option KeyHandle)
  | accepted (key : KeyHandle)
  | holding (message : Bytes) (key : KeyHandle)
  | ended (result : Except Failure Signature)

namespace Attempt

/-- The attempt after its next step, with the payload and the events of the step. The message is
taken out of the payload in one step. -/
def next (b : Backend) (p : Payload) : Attempt → Attempt × Payload × List Event
  | begun key =>
    match b.checkHandle key with
    | .ok key => (accepted key, p, [])
    | .error f => (ended (.error f), p, [])
  | accepted key =>
    match p.consume with
    | (.ok message, p) => (holding message key, p, [])
    | (.error f, p) => (ended (.error f), p, [])
  | holding message key =>
    (ended (b.signMessage message key).result, p, (b.signMessage message key).events)
  | ended result => (ended result, p, [])

/-- The attempt after its handle was released. -/
def release : Attempt → Attempt
  | begun key => begun (key.map .release)
  | accepted key => accepted key.release
  | holding message key => holding message key.release
  | ended result => ended result

/-- The attempt was refused or got the message. -/
def IsPast : Attempt → Prop
  | begun _ | accepted _ => False
  | holding _ _ | ended _ => True

/-- The attempt got the message and has not signed it yet. -/
def IsHolding : Attempt → Prop
  | holding _ _ => True
  | begun _ | accepted _ | ended _ => False

/-- How many steps an attempt has taken, three for one that has ended. -/
def rank : Attempt → Nat
  | begun _ => 0
  | accepted _ => 1
  | holding _ _ => 2
  | ended _ => 3

@[simp] theorem isPast_release (a : Attempt) : a.release.IsPast ↔ a.IsPast := by
  cases a <;> exact Iff.rfl

@[simp] theorem isHolding_release (a : Attempt) : a.release.IsHolding ↔ a.IsHolding := by
  cases a <;> exact Iff.rfl

@[simp] theorem rank_release (a : Attempt) : a.release.rank = a.rank := by
  cases a <;> rfl

theorem IsHolding.isPast {a : Attempt} (h : a.IsHolding) : a.IsPast := by
  cases a with
  | holding => trivial
  | begun | accepted | ended => exact h.elim

section Steps

variable {b : Backend} {p : Payload} {k : KeyHandle} {key : Option KeyHandle}

theorem next_begun_of_accepts (h : k.curve = b.curve) :
    next b p (begun (some k)) = (accepted k, p, []) := by
  rw [next, Backend.checkHandle_of_accepts h]

theorem next_begun_of_error {f : Failure} (h : b.checkHandle key = .error f) :
    next b p (begun key) = (ended (.error f), p, []) := by
  rw [next, h]

theorem next_accepted_of_fresh (h : p.consumed = false) :
    next b p (accepted k) = (holding p.message k, { p with consumed := true }, []) := by
  rw [next, Payload.consume, h, if_neg Bool.false_ne_true]

theorem next_accepted_of_consumed (h : p.consumed = true) :
    next b p (accepted k) = (ended (.error .payloadConsumed), p, []) := by
  rw [next, Payload.consume, if_pos h]

/-- The handle of an attempt that begins is accepted or refused. -/
theorem begun_cases (b : Backend) (p : Payload) (key : Option KeyHandle) :
    (∃ k, key = some k ∧ k.curve = b.curve ∧ next b p (begun key) = (accepted k, p, [])) ∨
      ∃ f, b.checkHandle key = .error f ∧ ¬ b.Accepts key ∧
        next b p (begun key) = (ended (.error f), p, []) := by
  by_cases h : b.Accepts key
  · obtain ⟨k, rfl, hk⟩ := h
    exact .inl ⟨k, rfl, hk, next_begun_of_accepts hk⟩
  · obtain ⟨f, hf⟩ := Backend.exists_refusal h
    exact .inr ⟨f, hf, h, next_begun_of_error hf⟩

theorem consumed_next (a : Attempt) (h : p.consumed = true) :
    (next b p a).2.1.consumed = true := by
  cases a with
  | begun key =>
    rcases begun_cases b p key with ⟨k, -, -, hnext⟩ | ⟨f, -, -, hnext⟩ <;> rw [hnext] <;> exact h
  | accepted k =>
    rw [next_accepted_of_consumed h]
    exact h
  | holding | ended => exact h

theorem rank_next (b : Backend) (p : Payload) (a : Attempt) :
    a.rank + 1 ≤ (next b p a).1.rank ∨ 3 ≤ (next b p a).1.rank := by
  cases a with
  | begun key =>
    rcases begun_cases b p key with ⟨k, -, -, hnext⟩ | ⟨f, -, -, hnext⟩ <;> rw [hnext] <;>
      simp [rank]
  | accepted k =>
    cases hp : p.consumed with
    | false =>
      rw [next_accepted_of_fresh hp]
      simp [rank]
    | true =>
      rw [next_accepted_of_consumed hp]
      simp [rank]
  | holding | ended => simp [next, rank]

/-- An attempt of a caller with a handle to sign a payload. One that has ended gave what
`Backend.sign` gives. -/
def Follows (b : Backend) (key : Option KeyHandle) (p : Payload) : Attempt → Prop
  | begun k => KeyHandle.IsStateOf key k
  | accepted k => KeyHandle.IsStateOf key (some k) ∧ k.curve = b.curve
  | holding message k => KeyHandle.IsStateOf key (some k) ∧ k.curve = b.curve ∧
      message = p.message ∧ p.consumed = false
  | ended result => ∃ k consumed, KeyHandle.IsStateOf key k ∧
      result = (b.sign { p with consumed } k).1.result

theorem Follows.release {a : Attempt} (h : a.Follows b key p) :
    a.release.Follows b key p := by
  cases a with
  | begun k => exact KeyHandle.IsStateOf.release h
  | accepted k => exact ⟨h.1.release, k.curve_release.trans h.2⟩
  | holding message k => exact ⟨h.1.release, k.curve_release.trans h.2.1, h.2.2⟩
  | ended result => exact h

theorem Follows.accepts {a : Attempt} (h : a.Follows b key p) (ha : a.IsHolding) :
    b.Accepts key := by
  cases a with
  | holding message k =>
    exact (Backend.accepts_of_isStateOf h.1).1 (Backend.accepts_some_iff.2 h.2.1)
  | begun | accepted | ended => exact ha.elim

/-- An attempt with a handle that the backend does not accept never comes to the payload. -/
theorem Follows.next_of_refused {a : Attempt} (ha : a.Follows b key p) (h : ¬ b.Accepts key)
    (q : Payload) : ∃ a', a.next b q = (a', q, []) := by
  cases a with
  | begun k =>
    rcases begun_cases b q k with ⟨k', -, -, hnext⟩ | ⟨f, -, -, hnext⟩ <;> exact ⟨_, hnext⟩
  | accepted k =>
    exact (h ((Backend.accepts_of_isStateOf ha.1).1 (Backend.accepts_some_iff.2 ha.2))).elim
  | holding => exact (h (ha.accepts trivial)).elim
  | ended result => exact ⟨ended result, rfl⟩

/-- An attempt that begins after the payload was consumed: it can only be refused. -/
def IsLate : Attempt → Prop
  | begun _ | accepted _ => True
  | holding _ _ => False
  | ended result => result = .error .payloadConsumed

theorem isLate_of_not_isPast {a : Attempt} (h : ¬ a.IsPast) : a.IsLate := by
  cases a with
  | begun | accepted => trivial
  | holding | ended => exact (h trivial).elim

theorem IsLate.release {a : Attempt} (h : a.IsLate) : a.release.IsLate := by
  cases a <;> exact h

theorem IsLate.next {a : Attempt} {q : Payload} (h : a.IsLate) (hq : q.consumed = true)
    (hb : b.Accepts key) (ha : a.Follows b key p) : (a.next b q).1.IsLate := by
  cases a with
  | begun k =>
    obtain ⟨k', rfl, hk'⟩ := (Backend.accepts_of_isStateOf ha).2 hb
    rw [next_begun_of_accepts hk']
    trivial
  | accepted k =>
    rw [next_accepted_of_consumed hq]
    rfl
  | holding => exact h.elim
  | ended => exact h

theorem exists_ended_of_rank {a : Attempt} (h : 3 ≤ a.rank) : ∃ result, a = ended result := by
  cases a with
  | ended result => exact ⟨result, rfl⟩
  | begun | accepted | holding => simp [rank] at h

end Steps

end Attempt

/-! ## Attempts of several callers -/

/-- A payload, how far each caller has come, and the events so far. -/
structure Attempts (Caller : Type) where
  payload : Payload
  attempt : Caller → Attempt
  events : List Event

namespace Attempts

/-- What may happen next: a caller takes a step, or its handle is released. -/
inductive Move (Caller : Type) where
  | advance (c : Caller)
  | release (c : Caller)
  deriving DecidableEq

variable {Caller : Type} [DecidableEq Caller] {b : Caller → Backend}
  {key : Caller → Option KeyHandle} {p : Payload} {s : Attempts Caller} {c : Caller}

/-- All callers with their handles before the first step. -/
def start (p : Payload) (key : Caller → Option KeyHandle) : Attempts Caller :=
  ⟨p, fun c => .begun (key c), []⟩

def move (b : Caller → Backend) (s : Attempts Caller) : Move Caller → Attempts Caller
  | .advance c =>
    let step := (s.attempt c).next (b c) s.payload
    ⟨step.2.1, Function.update s.attempt c step.1, s.events ++ step.2.2⟩
  | .release c => { s with attempt := Function.update s.attempt c (s.attempt c).release }

def run (b : Caller → Backend) (s : Attempts Caller) (moves : List (Move Caller)) :
    Attempts Caller :=
  moves.foldl (move b) s

/-- The messages that were handed to a primitive to be signed. -/
def signed (s : Attempts Caller) : List Bytes :=
  s.events.filterMap Event.signed?

theorem run_cons (m : Move Caller) (moves : List (Move Caller)) :
    run b s (m :: moves) = run b (move b s m) moves := rfl

theorem move_advance {a a' : Attempt} {p' : Payload} {es : List Event}
    (ha : s.attempt c = a) (h : a.next (b c) s.payload = (a', p', es)) :
    move b s (.advance c) = ⟨p', Function.update s.attempt c a', s.events ++ es⟩ := by
  rw [move, ha, h]

theorem run_advance_update {a a' : Attempt} {attempt : Caller → Attempt} {p' : Payload}
    {es es' : List Event} (h : a.next (b c) p = (a', p', es')) (moves : List (Move Caller)) :
    run b ⟨p, Function.update attempt c a, es⟩ (.advance c :: moves) =
      run b ⟨p', Function.update attempt c a', es ++ es'⟩ moves := by
  have ha : (⟨p, Function.update attempt c a, es⟩ : Attempts Caller).attempt c = a :=
    Function.update_self ..
  rw [run_cons, move_advance ha h, Function.update_idem]

/-- An attempt that nothing comes between is made by `Backend.sign`. -/
theorem run_alone {k : Option KeyHandle} (h : s.attempt c = .begun k) :
    run b s [.advance c, .advance c, .advance c] =
      ⟨((b c).sign s.payload k).2,
        Function.update s.attempt c (.ended ((b c).sign s.payload k).1.result),
        s.events ++ ((b c).sign s.payload k).1.events⟩ := by
  rcases Attempt.begun_cases (b c) s.payload k with ⟨k', rfl, hk, hnext⟩ | ⟨f, hf, -, hnext⟩
  · rw [run_cons, move_advance h hnext, List.append_nil]
    cases hp : s.payload.consumed with
    | false =>
      rw [run_advance_update (Attempt.next_accepted_of_fresh hp), List.append_nil,
        run_advance_update rfl, Backend.sign_of_fresh hk hp]
      rfl
    | true =>
      rw [run_advance_update (Attempt.next_accepted_of_consumed hp), List.append_nil,
        run_advance_update rfl, Backend.sign_of_consumed hk hp]
      rfl
  · rw [run_cons, move_advance h hnext, run_advance_update rfl, run_advance_update rfl,
      Backend.sign_of_refusal hf, List.append_nil, List.append_nil]
    rfl

/-! ## What every run keeps -/

/-- What holds of the attempts to sign a payload with some handles. -/
structure Tracks (b : Caller → Backend) (key : Caller → Option KeyHandle) (p : Payload)
    (s : Attempts Caller) : Prop where
  follows : ∀ c, (s.attempt c).Follows (b c) (key c) p
  payload : s.payload = { p with consumed := s.payload.consumed }
  consumed_of_start : p.consumed = true → s.payload.consumed = true
  consumed_of_past : ∀ c, (b c).Accepts (key c) → (s.attempt c).IsPast → s.payload.consumed = true
  exists_past : s.payload.consumed = true →
    p.consumed = true ∨ ∃ c, (b c).Accepts (key c) ∧ (s.attempt c).IsPast
  holder_unique : ∀ c c', (s.attempt c).IsHolding → (s.attempt c').IsHolding → c' = c
  signed : s.signed = [] ∨ p.consumed = false ∧ s.signed = [p.message] ∧
    s.payload.consumed = true ∧ ∀ c, ¬ (s.attempt c).IsHolding

namespace Tracks

omit [DecidableEq Caller] in
theorem start (b : Caller → Backend) (key : Caller → Option KeyHandle) (p : Payload) :
    (start p key).Tracks b key p where
  follows _ := .inl rfl
  payload := rfl
  consumed_of_start h := h
  consumed_of_past _ _ h := h.elim
  exists_past h := .inl h
  holder_unique _ _ h := h.elim
  signed := .inl rfl

omit [DecidableEq Caller] in
theorem consumed_of_holding (hs : s.Tracks b key p) (h : (s.attempt c).IsHolding) :
    s.payload.consumed = true :=
  hs.consumed_of_past c ((hs.follows c).accepts h) h.isPast

/-- An attempt may change when the payload does not, if it does not get the message and only comes
past the payload after that was consumed. -/
theorem set {a : Attempt} (hs : s.Tracks b key p) (hfollows : a.Follows (b c) (key c) p)
    (hholding : a.IsHolding → (s.attempt c).IsHolding)
    (hpast : (s.attempt c).IsPast → a.IsPast)
    (hnew : (b c).Accepts (key c) → a.IsPast → s.payload.consumed = true) :
    Tracks b key p ⟨s.payload, Function.update s.attempt c a, s.events⟩ := by
  have hholder : ∀ c', (Function.update s.attempt c a c').IsHolding → (s.attempt c').IsHolding :=
    (Function.forall_update_iff s.attempt fun c' a => a.IsHolding → (s.attempt c').IsHolding).2
      ⟨hholding, fun _ _ h => h⟩
  have hkept : ∀ c', (s.attempt c').IsPast → (Function.update s.attempt c a c').IsPast :=
    (Function.forall_update_iff s.attempt fun c' a => (s.attempt c').IsPast → a.IsPast).2
      ⟨hpast, fun _ _ h => h⟩
  exact {
    follows := (Function.forall_update_iff s.attempt fun c' a => a.Follows (b c') (key c') p).2
      ⟨hfollows, fun c' _ => hs.follows c'⟩
    payload := hs.payload
    consumed_of_start := hs.consumed_of_start
    consumed_of_past :=
      (Function.forall_update_iff s.attempt fun c' a =>
        (b c').Accepts (key c') → a.IsPast → s.payload.consumed = true).2
      ⟨hnew, fun c' _ => hs.consumed_of_past c'⟩
    exists_past := fun h =>
      (hs.exists_past h).imp_right fun ⟨c', hc', hpast'⟩ => ⟨c', hc', hkept c' hpast'⟩
    holder_unique := fun c' c'' h' h'' => hs.holder_unique c' c'' (hholder c' h') (hholder c'' h'')
    signed := hs.signed.imp_right fun ⟨hp, hsigned, hcons, hnone⟩ =>
      ⟨hp, hsigned, hcons, fun c' h => hnone c' (hholder c' h)⟩ }

/-- The first caller that comes to the payload with an accepted handle gets the message. -/
theorem take {k : KeyHandle} (hs : s.Tracks b key p) (ha : s.attempt c = .accepted k)
    (hp : s.payload.consumed = false) :
    Tracks b key p ⟨{ s.payload with consumed := true },
      Function.update s.attempt c (.holding s.payload.message k), s.events⟩ := by
  have hfollows := hs.follows c
  rw [ha] at hfollows
  obtain ⟨hstate, hcurve⟩ := hfollows
  have hfresh : p.consumed = false := by
    by_contra hne
    rw [hs.consumed_of_start (by simpa using hne)] at hp
    cases hp
  have hmessage : s.payload.message = p.message := by rw [hs.payload]
  have hnone : ∀ c', ¬ (s.attempt c').IsHolding := by
    intro c' h
    rw [hs.consumed_of_holding h] at hp
    cases hp
  have hsigned : s.signed = [] := by
    rcases hs.signed with h | ⟨-, -, hcons, -⟩
    · exact h
    · rw [hcons] at hp
      cases hp
  have hholder : ∀ c', (Function.update s.attempt c (.holding s.payload.message k) c').IsHolding →
      c' = c := by
    intro c' h
    by_contra hne
    rw [Function.update_of_ne hne] at h
    exact hnone c' h
  exact {
    follows := (Function.forall_update_iff s.attempt fun c' a => a.Follows (b c') (key c') p).2
      ⟨⟨hstate, hcurve, hmessage, hfresh⟩, fun c' _ => hs.follows c'⟩
    payload := by rw [hs.payload]
    consumed_of_start := fun _ => rfl
    consumed_of_past := fun _ _ _ => rfl
    exists_past := fun _ => .inr ⟨c,
      (Backend.accepts_of_isStateOf hstate).1 (Backend.accepts_some_iff.2 hcurve),
      by simp [Attempt.IsPast]⟩
    holder_unique := fun c' c'' h' h'' => (hholder c'' h'').trans (hholder c' h').symm
    signed := .inl hsigned }

/-- The caller that got the message signs it. -/
theorem sign {message : Bytes} {k : KeyHandle} (hs : s.Tracks b key p)
    (ha : s.attempt c = .holding message k) :
    Tracks b key p ⟨s.payload,
      Function.update s.attempt c (.ended ((b c).signMessage message k).result),
      s.events ++ ((b c).signMessage message k).events⟩ := by
  have hholding : (s.attempt c).IsHolding := by
    rw [ha]
    trivial
  have hcons := hs.consumed_of_holding hholding
  have hfollows := hs.follows c
  rw [ha] at hfollows
  obtain ⟨hstate, hcurve, rfl, hfresh⟩ := hfollows
  have hended : (Attempt.ended ((b c).signMessage p.message k).result).Follows (b c) (key c) p :=
    ⟨some k, false, hstate, by rw [Backend.sign_of_fresh hcurve rfl]⟩
  have hnone : ∀ c',
      ¬ (Function.update s.attempt c (.ended ((b c).signMessage p.message k).result) c').IsHolding :=
    (Function.forall_update_iff s.attempt fun _ a => ¬ a.IsHolding).2
      ⟨id, fun c' hne h => hne (hs.holder_unique c c' hholding h)⟩
  have hset := hs.set hended False.elim (fun _ => trivial) (fun _ _ => hcons)
  have hsigned : s.signed = [] := by
    rcases hs.signed with h | ⟨-, -, -, hno⟩
    · exact h
    · exact (hno c hholding).elim
  refine { hset with
    signed := ?_
    holder_unique := fun c' _ h => (hnone c' h).elim }
  unfold Attempts.signed at hsigned ⊢
  rw [List.filterMap_append, hsigned, List.nil_append]
  exact ((b c).signed_signMessage p.message k).imp_right fun h => ⟨hfresh, h, hcons, hnone⟩

theorem move (hs : s.Tracks b key p) (m : Move Caller) :
    (move b s m).Tracks b key p := by
  cases m with
  | release c =>
    refine hs.set (hs.follows c).release (Attempt.isHolding_release _).1
      (Attempt.isPast_release _).2 fun hc h => ?_
    exact hs.consumed_of_past c hc ((Attempt.isPast_release _).1 h)
  | advance c =>
    have hfollows := hs.follows c
    cases ha : s.attempt c with
    | begun k =>
      rw [ha] at hfollows
      rcases Attempt.begun_cases (b c) s.payload k with
        ⟨k', rfl, hk, hnext⟩ | ⟨f, hf, hrefused, hnext⟩
      · rw [move_advance ha hnext, List.append_nil]
        exact hs.set ⟨hfollows, hk⟩ False.elim (by simp [ha, Attempt.IsPast]) fun _ h => h.elim
      · rw [move_advance ha hnext, List.append_nil]
        refine hs.set ⟨k, p.consumed, hfollows, by rw [Backend.sign_of_refusal hf]; rfl⟩
          False.elim (fun _ => trivial) fun hc _ => ?_
        exact (hrefused ((Backend.accepts_of_isStateOf hfollows).2 hc)).elim
    | accepted k =>
      rw [ha] at hfollows
      cases hp : s.payload.consumed with
      | false =>
        rw [move_advance ha (Attempt.next_accepted_of_fresh hp), List.append_nil]
        exact hs.take ha hp
      | true =>
        rw [move_advance ha (Attempt.next_accepted_of_consumed hp), List.append_nil]
        exact hs.set ⟨some k, true, hfollows.1, by rw [Backend.sign_of_consumed hfollows.2 rfl]; rfl⟩
          False.elim (fun _ => trivial) fun _ _ => hp
    | holding message k =>
      rw [move_advance ha rfl]
      exact hs.sign ha
    | ended result =>
      rw [move_advance ha rfl, ← ha, Function.update_eq_self, List.append_nil]
      exact hs

theorem run (hs : s.Tracks b key p) (moves : List (Move Caller)) :
    (run b s moves).Tracks b key p := by
  induction moves generalizing s with
  | nil => exact hs
  | cons m moves ih => exact ih (hs.move m)

end Tracks

/-! ## Late attempts -/

theorem consumed_move (hp : s.payload.consumed = true) (m : Move Caller) :
    (move b s m).payload.consumed = true := by
  cases m with
  | advance c => exact Attempt.consumed_next _ hp
  | release c => exact hp

theorem isLate_move (hs : s.Tracks b key p) (hc : (b c).Accepts (key c))
    (hp : s.payload.consumed = true) (h : (s.attempt c).IsLate) (m : Move Caller) :
    ((move b s m).attempt c).IsLate := by
  cases m with
  | advance c' =>
    by_cases hcc : c = c'
    · subst hcc
      simpa [move] using h.next hp hc (hs.follows c)
    · simpa [move, hcc] using h
  | release c' =>
    by_cases hcc : c = c'
    · subst hcc
      simpa [move] using h.release
    · simpa [move, hcc] using h

theorem isLate_run (hs : s.Tracks b key p) (hc : (b c).Accepts (key c))
    (hp : s.payload.consumed = true) (h : (s.attempt c).IsLate) (moves : List (Move Caller)) :
    ((run b s moves).attempt c).IsLate := by
  induction moves generalizing s with
  | nil => exact h
  | cons m moves ih =>
    exact ih (hs.move m) (consumed_move hp m) (isLate_move hs hc hp h m)

theorem rank_move (b : Caller → Backend) (s : Attempts Caller) (c : Caller) (m : Move Caller) :
    (s.attempt c).rank + (if m = .advance c then 1 else 0) ≤ ((move b s m).attempt c).rank ∨
      3 ≤ ((move b s m).attempt c).rank := by
  cases m with
  | advance c' =>
    by_cases hcc : c' = c
    · subst hcc
      simpa [move] using Attempt.rank_next (b c') s.payload (s.attempt c')
    · simp [move, hcc, Ne.symm hcc]
  | release c' =>
    by_cases hcc : c' = c
    · subst hcc
      simp [move]
    · simp [move, Ne.symm hcc]

theorem rank_run (b : Caller → Backend) (s : Attempts Caller) (c : Caller)
    (moves : List (Move Caller)) :
    (s.attempt c).rank + moves.count (.advance c) ≤ ((run b s moves).attempt c).rank ∨
      3 ≤ ((run b s moves).attempt c).rank := by
  induction moves generalizing s with
  | nil => exact .inl (Nat.le_refl _)
  | cons m moves ih =>
    have hstep := rank_move b s c m
    have hrest := ih (move b s m)
    rw [run_cons, List.count_cons]
    simp only [beq_iff_eq]
    omega

/-- A payload is signed at most once, in whatever order the callers take their steps. A caller
whose handle is not of the curve of its backend leaves the payload and the journal alone. The
payload is consumed exactly when a caller with a handle of the curve has come past it, and those
that come later are refused. -/
theorem signed_once (b : Caller → Backend) (key : Caller → Option KeyHandle) (p : Payload)
    (before after : List (Move Caller)) :
    let s := run b (start p key) before
    let s' := run b s after
    (s.signed = [] ∨ p.consumed = false ∧ s.signed = [p.message]) ∧
      (∀ c, ¬ (b c).Accepts (key c) →
        (move b s (.advance c)).payload = s.payload ∧
          (move b s (.advance c)).events = s.events) ∧
      s.payload = { p with consumed := s.payload.consumed } ∧
      (s.payload.consumed = true ↔
        p.consumed = true ∨ ∃ c, (b c).Accepts (key c) ∧ (s.attempt c).IsPast) ∧
      (∀ c, (b c).Accepts (key c) → s.payload.consumed = true → ¬ (s.attempt c).IsPast →
        ∀ result, s'.attempt c = .ended result →
          ∃ f, result = .error f ∧ f.code? = some .signingFailure) ∧
      (∀ c, 3 ≤ after.count (.advance c) → ∃ result, s'.attempt c = .ended result) ∧
      (∀ c result, s.attempt c = .ended result → ∃ k consumed,
        KeyHandle.IsStateOf (key c) k ∧
          result = ((b c).sign { p with consumed } k).1.result) ∧
      ∀ c k, s.attempt c = .begun k →
        run b s [.advance c, .advance c, .advance c] =
          ⟨((b c).sign s.payload k).2,
            Function.update s.attempt c (.ended ((b c).sign s.payload k).1.result),
            s.events ++ ((b c).sign s.payload k).1.events⟩ := by
  intro s s'
  have hs : s.Tracks b key p := (Tracks.start b key p).run before
  refine ⟨hs.signed.imp_right fun h => ⟨h.1, h.2.1⟩, ?_, hs.payload, ⟨hs.exists_past, ?_⟩, ?_, ?_,
    ?_, fun c k h => run_alone h⟩
  · intro c hc
    obtain ⟨a, hnext⟩ := (hs.follows c).next_of_refused hc s.payload
    rw [move_advance rfl hnext, List.append_nil]
    exact ⟨rfl, rfl⟩
  · rintro (h | ⟨c, hc, hpast⟩)
    · exact hs.consumed_of_start h
    · exact hs.consumed_of_past c hc hpast
  · intro c hc hcons hpast result hresult
    have hlate := isLate_run hs hc hcons (Attempt.isLate_of_not_isPast hpast) after
    rw [show (run b s after).attempt c = .ended result from hresult] at hlate
    exact ⟨_, hlate, rfl⟩
  · intro c hcount
    have hrank := rank_run b s c after
    exact Attempt.exists_ended_of_rank (show 3 ≤ ((run b s after).attempt c).rank by omega)
  · intro c result hresult
    have hfollows := hs.follows c
    rwa [hresult] at hfollows

-- Two callers come to the payload one after the other, and only the first signs.
example :
    let b : Bool → Backend := fun _ => ⟨.ed25519, ⟨fun _ _ => .ok [], fun _ => .ok [],
      fun message _ => .ok message, fun _ _ _ => .ok true⟩⟩
    let key : Bool → Option KeyHandle := fun _ => some (.make .ed25519 "m" [1])
    let s := run b (start (.ofMessage [7]) key) [.advance true, .advance false, .advance false,
      .advance true, .advance true, .advance false]
    s.signed = [[7]] ∧ s.attempt false = .ended (.ok ⟨.ed25519, [7]⟩) ∧
      s.attempt true = .ended (.error .payloadConsumed) := by
  exact ⟨rfl, rfl, rfl⟩

end Attempts

end Signatory
