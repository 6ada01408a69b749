import Watchtower.Core.Machine
import Watchtower.Redis.Claim

/-!
# Releasing a claim

Any number of clients claim alerts, suppress them and release their claims again, all under the
same family of keys.  A command whose attempt fails at the client may have been carried out, may be
carried out at any later moment, or never.

* `CooldownCall` — the three calls, each with the command it sends and the check before it.
* `CooldownState.step` — the server, the calls in progress and the commands on their way, as a
  machine over events.  A call is known by a number; the state also remembers which call has
  written what a key holds.
* `CooldownState.Owned` — the value of a claim is found only where that claim has written it.
* **`release_removes_own`** — a release removes nothing but what its own claim has written, and
  removes something again only after a late command of that claim.
* `lateClaim_released_again` — such a command makes the repeated release remove a key again.
-/

namespace Watchtower

open Core Py

/-! ## The calls -/

/-- What `suppress_alert` writes. -/
def suppressionMarker : PyStr := py "1"

inductive CooldownCall
  /-- `claim_alert`, with the token it draws. -/
  | claim (fingerprint token : PyStr) (cooldownSecs : ℤ)
  /-- `release_alert_claim`. -/
  | release (fingerprint token : PyStr)
  /-- `suppress_alert`. -/
  | suppress (fingerprint : PyStr) (cooldownSecs : ℤ)
  deriving DecidableEq

namespace CooldownCall

/-- The command that every attempt sends.  The script of `release_alert_claim` is a deletion that
compares first. -/
def command : CooldownCall → RedisCommand
  | claim fingerprint token cooldownSecs => setNx (cooldownKey fingerprint) token cooldownSecs
  | release fingerprint token => .compareDel (cooldownKey fingerprint) token
  | suppress fingerprint cooldownSecs =>
      .setEx (cooldownKey fingerprint) suppressionMarker cooldownSecs

/-- The error that is raised before the first attempt. -/
def refusal : CooldownCall → Option PyExc
  | claim _ _ cooldownSecs =>
      if cooldownSecs < 1 then some (.valueError "cooldown_secs must be positive") else none
  | release _ token => if token = [] then some (.valueError "claim token is required") else none
  | suppress _ cooldownSecs =>
      if cooldownSecs < 1 then some (.valueError "ttl_secs must be positive") else none

/-- Where a call starts. -/
def start (c : CooldownCall) : Turn Bool :=
  match c.refusal with
  | some e => .raised e
  | none => .trying 1

/-- The token a call draws. -/
def drawn : CooldownCall → List PyStr
  | claim _ token _ => [token]
  | _ => []

end CooldownCall

/-- A call, and where its retry loop stands. -/
structure CallState where
  call : CooldownCall
  turn : Turn Bool
  deriving DecidableEq

/-! ## The machine -/

structure CooldownState where
  now : ℚ
  store : Redis
  calls : ℕ → Option CallState
  /-- The calls with a command that may still reach the server. -/
  inFlight : List ℕ
  /-- The call that has written what a key holds. -/
  writer : PyStr → Option ℕ
  /-- The values that a token drawn from now on is different from. -/
  known : List PyStr

inductive CooldownEvent
  /-- Time passes. -/
  | wait (secs : ℚ)
  /-- A client makes a call. -/
  | begin (id : ℕ) (call : CooldownCall)
  /-- A call makes its next attempt. -/
  | attempt (id : ℕ) (contact : Contact)
  /-- A command whose attempt has failed reaches the server after all. -/
  | arrive (index : ℕ)
  deriving DecidableEq

namespace CooldownState

/-- The server executes a command of a call. -/
def execute (s : CooldownState) (id : ℕ) (c : RedisCommand) : CooldownState :=
  { s with
    store := (c.exec s.now s.store).2
    writer := if (c.exec s.now s.store).1 then Function.update s.writer c.key (some id)
              else s.writer }

/-- One event; an event that is not possible in the state is an error. -/
def step (s : CooldownState) : CooldownEvent → Except Unit CooldownState
  | .wait secs => if 0 ≤ secs then .ok { s with now := s.now + secs } else .error ()
  | .begin id call =>
      if (s.calls id).isSome ∨ ∃ token ∈ call.drawn, token ∈ s.known then .error ()
      else
        .ok { s with
              calls := Function.update s.calls id (some { call, turn := call.start })
              known := call.drawn ++ s.known }
  | .attempt id contact =>
      match s.calls id with
      | some { call, turn := .trying k } =>
          match contact with
          | .answered =>
              let turn := retryTurn k (.ok (call.command.exec s.now s.store).1)
              .ok { s.execute id call.command with
                    calls := Function.update s.calls id (some { call, turn }) }
          | .failed e =>
              .ok { s with
                    calls := Function.update s.calls id
                      (some { call, turn := retryTurn k (.error e) })
                    inFlight := id :: s.inFlight }
      | _ => .error ()
  | .arrive index =>
      match s.inFlight[index]? with
      | none => .error ()
      | some id =>
          match s.calls id with
          | none => .error ()
          | some { call, .. } =>
              .ok { s.execute id call.command with inFlight := s.inFlight.eraseIdx index }

/-- The call whose command an event makes the server execute. -/
def executes (s : CooldownState) : CooldownEvent → Option ℕ
  | .attempt id .answered => some id
  | .arrive index => s.inFlight[index]?
  | _ => none

/-- `claim_alert` has returned the token it has drawn. -/
def Claimed (s : CooldownState) (claim : ℕ) (fingerprint token : PyStr) : Prop :=
  ∃ cooldownSecs, s.calls claim = some ⟨.claim fingerprint token cooldownSecs, .returned true⟩

/-- A call releases the token that a claim has returned. -/
def Releases (s : CooldownState) (release claim : ℕ) (fingerprint token : PyStr) : Prop :=
  (∃ turn, s.calls release = some ⟨.release fingerprint token, turn⟩) ∧
    ∃ claimed, s.Claimed claim claimed token

end CooldownState

/-- The clients and the server, which holds some keys already. -/
def cooldowns (now : ℚ) (held : List (PyStr × Lease PyStr ℚ)) :
    Machine CooldownState CooldownEvent Unit where
  init :=
    { now, store := fun key => held.lookup key, calls := fun _ => none, inFlight := []
      writer := fun _ => none
      known := suppressionMarker :: [] :: held.map fun entry => entry.2.value }
  step := CooldownState.step

/-! ## What an event does -/

namespace CooldownState

/-- The effects of the events, one constructor for each kind.  An attempt that is answered and a
command that arrives late have the same one. -/
inductive Effect (s : CooldownState) : CooldownEvent → CooldownState → Prop
  | wait {secs : ℚ} (hsecs : 0 ≤ secs) : Effect s (.wait secs) { s with now := s.now + secs }
  | begin {id : ℕ} {call : CooldownCall} (hid : s.calls id = none)
      (hfresh : ∀ token ∈ call.drawn, token ∉ s.known) :
      Effect s (.begin id call)
        { s with
          calls := Function.update s.calls id (some { call, turn := call.start })
          known := call.drawn ++ s.known }
  | execute {e : CooldownEvent} {id : ℕ} {call : CooldownCall} {turn turn' : Turn Bool}
      {inFlight : List ℕ} (he : s.executes e = some id) (hcall : s.calls id = some ⟨call, turn⟩)
      (hturn : turn' = turn ∨ ∃ k, turn = .trying k) :
      Effect s e
        { s.execute id call.command with
          calls := Function.update s.calls id (some ⟨call, turn'⟩), inFlight }
  | fail {id k : ℕ} {call : CooldownCall} {error : PyExc} {turn' : Turn Bool}
      (hcall : s.calls id = some ⟨call, .trying k⟩) :
      Effect s (.attempt id (.failed error))
        { s with
          calls := Function.update s.calls id (some ⟨call, turn'⟩), inFlight := id :: s.inFlight }

lemma effect_of_step {s t : CooldownState} {e : CooldownEvent} (h : s.step e = .ok t) :
    s.Effect e t := by
  cases e with
  | wait secs =>
      simp only [step] at h
      split_ifs at h with hsecs
      cases h
      exact .wait hsecs
  | begin id call =>
      simp only [step] at h
      split_ifs at h with hbusy
      cases h
      rw [not_or, Option.not_isSome_iff_eq_none] at hbusy
      exact .begin hbusy.1 fun token htoken hknown => hbusy.2 ⟨token, htoken, hknown⟩
  | attempt id contact =>
      simp only [step] at h
      split at h
      · next call k hcall =>
          cases contact with
          | answered =>
              cases h
              exact .execute rfl hcall (Or.inr ⟨k, rfl⟩)
          | failed error =>
              cases h
              exact .fail hcall
      · cases h
  | arrive index =>
      simp only [step] at h
      cases hid : s.inFlight[index]? with
      | none =>
          rw [hid] at h
          cases h
      | some id =>
          rw [hid] at h
          cases hcall : s.calls id with
          | none =>
              simp only [hcall] at h
              cases h
          | some c =>
              obtain ⟨call, turn⟩ := c
              simp only [hcall] at h
              cases h
              have hsame : Function.update s.calls id (some ⟨call, turn⟩) = s.calls := by
                rw [← hcall, Function.update_eq_self]
              refine hsame ▸ ?_
              exact Effect.execute hid hcall (Or.inl rfl)

/-! ## Ownership -/

/-- The call is a claim that has drawn the token. -/
def Draws (calls : ℕ → Option CallState) (claim : ℕ) (fingerprint token : PyStr) : Prop :=
  ∃ cooldownSecs turn, calls claim = some ⟨.claim fingerprint token cooldownSecs, turn⟩

lemma Claimed.draws {s : CooldownState} {claim : ℕ} {fingerprint token : PyStr}
    (h : s.Claimed claim fingerprint token) : Draws s.calls claim fingerprint token := by
  obtain ⟨secs, hclaim⟩ := h
  exact ⟨secs, _, hclaim⟩

/-- Where a call stands does not matter to what it has drawn. -/
lemma draws_update {calls : ℕ → Option CallState} {id : ℕ} {call : CooldownCall}
    {turn turn' : Turn Bool} (hcall : calls id = some ⟨call, turn⟩) {claim : ℕ}
    {fingerprint token : PyStr} :
    Draws (Function.update calls id (some ⟨call, turn'⟩)) claim fingerprint token ↔
      Draws calls claim fingerprint token := by
  unfold Draws
  by_cases hid : claim = id
  · subst hid
    simp only [Function.update_self, hcall, Option.some.injEq, CallState.mk.injEq,
      exists_and_left, exists_eq', and_true]
  · simp only [Function.update_of_ne hid]

/-- **The value of a claim is found only where that claim has written it**, and no two claims draw
the same one. -/
structure Owned (s : CooldownState) : Prop where
  known : ∀ k l, s.store k = some l → l.value ∈ s.known
  marker : suppressionMarker ∈ s.known
  drawn : ∀ i f t, Draws s.calls i f t → t ∈ s.known ∧ t ≠ suppressionMarker
  distinct : ∀ i j f g t, Draws s.calls i f t → Draws s.calls j g t → i = j
  owner : ∀ k l i f, s.store k = some l → Draws s.calls i f l.value →
    s.writer k = some i ∧ k = cooldownKey f

lemma owned_init (now : ℚ) (held : List (PyStr × Lease PyStr ℚ)) :
    (cooldowns now held).init.Owned where
  known := by
    intro k l hk
    obtain ⟨before, after, hheld, -⟩ := List.lookup_eq_some_iff.mp hk
    have hmem : l.value ∈ held.map fun entry => entry.2.value :=
      List.mem_map.mpr ⟨(k, l), by simp [hheld], rfl⟩
    exact List.mem_cons_of_mem _ (List.mem_cons_of_mem _ hmem)
  marker := List.mem_cons_self
  drawn := by
    rintro i f t ⟨secs, turn, hcall⟩
    cases hcall
  distinct := by
    rintro i j f g t ⟨secs, turn, hcall⟩
    cases hcall
  owner := by
    rintro k l i f - ⟨secs, turn, hcall⟩
    cases hcall

variable {s : CooldownState}

lemma execute_cases (s : CooldownState) (id : ℕ) (c : RedisCommand) :
    s.execute id c = s ∨
      s.execute id c =
        { s with
          store := Function.update s.store c.key (c.leaves s.now)
          writer := Function.update s.writer c.key (some id) } := by
  rcases Command.exec_cases s.now s.store c with h | h
  · exact Or.inl (by simp only [execute, h, Bool.false_eq_true, if_false])
  · exact Or.inr (by simp only [execute, h, if_true])

/-- What the command of a call leaves under its key is the token of a claim, or the marker. -/
lemma CooldownCall.leaves_command {call : CooldownCall} {now : ℚ} {l : Lease PyStr ℚ}
    (h : call.command.leaves now = some l) :
    (∃ f n, call = .claim f l.value n ∧ call.command.key = cooldownKey f) ∨
      l.value = suppressionMarker := by
  cases call with
  | claim f token n =>
      cases h
      exact Or.inl ⟨f, n, rfl, rfl⟩
  | release f token => cases h
  | suppress f n =>
      cases h
      exact Or.inr rfl

lemma Owned.execute (h : s.Owned) {id : ℕ} {call : CooldownCall} {turn : Turn Bool}
    (hcall : s.calls id = some ⟨call, turn⟩) : (s.execute id call.command).Owned := by
  rcases execute_cases s id call.command with heq | heq
  · rw [heq]
    exact h
  · rw [heq]
    refine { h with known := ?_, owner := ?_ }
    · intro k l hk
      simp only at hk
      by_cases hkey : k = call.command.key
      · subst hkey
        rw [Function.update_self] at hk
        rcases CooldownCall.leaves_command hk with ⟨f, n, rfl, -⟩ | hmarker
        · exact (h.drawn id f l.value ⟨n, turn, hcall⟩).1
        · rw [hmarker]
          exact h.marker
      · rw [Function.update_of_ne hkey] at hk
        exact h.known k l hk
    · intro k l i f hk hi
      simp only at hk hi ⊢
      by_cases hkey : k = call.command.key
      · subst hkey
        rw [Function.update_self] at hk ⊢
        rcases CooldownCall.leaves_command hk with ⟨g, n, rfl, hg⟩ | hmarker
        · -- the token has been drawn by this very call
          have hid : i = id := h.distinct i id f g l.value hi ⟨n, turn, hcall⟩
          subst hid
          obtain ⟨m, turn', hcall'⟩ := hi
          rw [hcall] at hcall'
          cases hcall'
          exact ⟨rfl, hg⟩
        · exact absurd hmarker (h.drawn i f l.value hi).2
      · rw [Function.update_of_ne hkey] at hk ⊢
        exact h.owner k l i f hk hi

/-- Where the calls stand, and which commands are on their way, does not matter. -/
lemma Owned.settle (h : s.Owned) {id : ℕ} {call : CooldownCall} {turn : Turn Bool}
    (hcall : s.calls id = some ⟨call, turn⟩) (turn' : Turn Bool) (inFlight : List ℕ) :
    Owned { s with calls := Function.update s.calls id (some ⟨call, turn'⟩), inFlight } where
  known := h.known
  marker := h.marker
  drawn := fun i f t hi => h.drawn i f t ((draws_update hcall).mp hi)
  distinct := fun i j f g t hi hj =>
    h.distinct i j f g t ((draws_update hcall).mp hi) ((draws_update hcall).mp hj)
  owner := fun k l i f hk hi => h.owner k l i f hk ((draws_update hcall).mp hi)

/-- A new call draws a token that no key holds and no other claim has drawn. -/
lemma Owned.begin (h : s.Owned) {id : ℕ} {call : CooldownCall} (hid : s.calls id = none)
    (hfresh : ∀ token ∈ call.drawn, token ∉ s.known) (turn : Turn Bool) :
    Owned { s with
            calls := Function.update s.calls id (some { call, turn })
            known := call.drawn ++ s.known } := by
  -- a claim is an old one, or the new call
  have hdraws : ∀ {i f t}, Draws (Function.update s.calls id (some { call, turn })) i f t →
      (i ≠ id ∧ Draws s.calls i f t) ∨ (i = id ∧ t ∈ call.drawn) := by
    rintro i f t ⟨n, turn', hi⟩
    by_cases hne : i = id
    · subst hne
      rw [Function.update_self] at hi
      cases hi
      exact Or.inr ⟨rfl, List.mem_singleton_self t⟩
    · rw [Function.update_of_ne hne] at hi
      exact Or.inl ⟨hne, n, turn', hi⟩
  constructor
  · exact fun k l hk => List.mem_append_right _ (h.known k l hk)
  · exact List.mem_append_right _ h.marker
  · intro i f t hi
    rcases hdraws hi with ⟨-, hold⟩ | ⟨-, hnew⟩
    · exact ⟨List.mem_append_right _ (h.drawn i f t hold).1, (h.drawn i f t hold).2⟩
    · refine ⟨List.mem_append_left _ hnew, ?_⟩
      rintro rfl
      exact hfresh _ hnew h.marker
  · intro i j f g t hi hj
    rcases hdraws hi with ⟨-, hold⟩ | ⟨rfl, hnew⟩
    · rcases hdraws hj with ⟨-, hold'⟩ | ⟨rfl, hnew⟩
      · exact h.distinct i j f g t hold hold'
      · exact absurd (h.drawn i f t hold).1 (hfresh t hnew)
    · rcases hdraws hj with ⟨-, hold⟩ | ⟨rfl, -⟩
      · exact absurd (h.drawn j g t hold).1 (hfresh t hnew)
      · rfl
  · intro k l i f hk hi
    rcases hdraws hi with ⟨-, hi⟩ | ⟨-, hi⟩
    · exact h.owner k l i f hk hi
    · exact absurd (h.known k l hk) (hfresh l.value hi)

/-- **Every event keeps the ownership.** -/
theorem owned_step (s : CooldownState) (e : CooldownEvent) (t : CooldownState) (h : s.Owned)
    (hstep : s.step e = .ok t) : t.Owned := by
  cases effect_of_step hstep with
  | wait hsecs => exact { h with }
  | begin hid hfresh => exact h.begin hid hfresh _
  | execute he hcall hturn =>
      have hexecute := h.execute hcall
      exact hexecute.settle (s := s.execute _ _) hcall _ _
  | fail hcall => exact h.settle hcall _ _

/-! ## What a release does -/

/-- A call stays the call it is, and where its loop has been left it stays left. -/
lemma exists_turn_of_step {e : CooldownEvent} {t : CooldownState} (hstep : s.step e = .ok t)
    {i : ℕ} {c : CooldownCall} {turn : Turn Bool} (hi : s.calls i = some ⟨c, turn⟩) :
    ∃ turn', t.calls i = some ⟨c, turn'⟩ ∧ (turn' = turn ∨ ∃ k, turn = .trying k) := by
  cases effect_of_step hstep with
  | wait hsecs => exact ⟨turn, hi, Or.inl rfl⟩
  | @begin id call hid hfresh =>
      have hne : i ≠ id := by
        rintro rfl
        rw [hid] at hi
        cases hi
      exact ⟨turn, (Function.update_of_ne hne _ _).trans hi, Or.inl rfl⟩
  | @execute _ id call turn' turn'' inFlight he hcall hturn =>
      by_cases hid : i = id
      · subst hid
        rw [hi] at hcall
        cases hcall
        exact ⟨turn'', Function.update_self _ _ _, hturn⟩
      · exact ⟨turn, (Function.update_of_ne hid _ _).trans hi, Or.inl rfl⟩
  | @fail id k call error turn' hcall =>
      by_cases hid : i = id
      · subst hid
        rw [hi] at hcall
        cases hcall
        exact ⟨turn', Function.update_self _ _ _, Or.inr ⟨k, rfl⟩⟩
      · exact ⟨turn, (Function.update_of_ne hid _ _).trans hi, Or.inl rfl⟩

lemma Claimed.step {claim : ℕ} {fingerprint token : PyStr} (h : s.Claimed claim fingerprint token)
    {e : CooldownEvent} {t : CooldownState} (hstep : s.step e = .ok t) :
    t.Claimed claim fingerprint token := by
  obtain ⟨secs, hclaim⟩ := h
  obtain ⟨turn, hturn, rfl | ⟨k, hk⟩⟩ := exists_turn_of_step hstep hclaim
  · exact ⟨secs, hturn⟩
  · cases hk

lemma Releases.step {release claim : ℕ} {fingerprint token : PyStr}
    (h : s.Releases release claim fingerprint token) {e : CooldownEvent} {t : CooldownState}
    (hstep : s.step e = .ok t) : t.Releases release claim fingerprint token := by
  obtain ⟨⟨turn, hrelease⟩, claimed, hclaimed⟩ := h
  obtain ⟨turn', hturn', -⟩ := exists_turn_of_step hstep hrelease
  exact ⟨⟨turn', hturn'⟩, claimed, hclaimed.step hstep⟩

/-- An event that executes a command takes no time. -/
lemma now_of_executes {e : CooldownEvent} {t : CooldownState} (hstep : s.step e = .ok t) {i : ℕ}
    (he : s.executes e = some i) : t.now = s.now := by
  cases effect_of_step hstep with
  | wait hsecs => cases he
  | begin hid hfresh => rfl
  | execute he' hcall hturn => rfl
  | fail hcall => rfl

/-- The store after an event that executes a command of a call. -/
lemma store_of_executes {e : CooldownEvent} {t : CooldownState} (hstep : s.step e = .ok t) {i : ℕ}
    (he : s.executes e = some i) {c : CooldownCall} {turn : Turn Bool}
    (hi : s.calls i = some ⟨c, turn⟩) : t.store = (c.command.exec s.now s.store).2 := by
  cases effect_of_step hstep with
  | wait hsecs => cases he
  | begin hid hfresh => cases he
  | @execute _ id call turn' turn'' inFlight he' hcall hturn =>
      rw [he] at he'
      cases he'
      rw [hi] at hcall
      cases hcall
      rfl
  | fail hcall => cases he

/-- **A release removes its own claim or nothing.** -/
lemma Owned.release (h : s.Owned) {release claim : ℕ} {fingerprint token : PyStr}
    (hreleases : s.Releases release claim fingerprint token) {e : CooldownEvent}
    {t : CooldownState} (he : s.executes e = some release) (hstep : s.step e = .ok t) :
    (t.store = s.store ∧ s.store.live s.now (cooldownKey fingerprint) ≠ some token) ∨
      s.store.live s.now (cooldownKey fingerprint) = some token ∧
        s.writer (cooldownKey fingerprint) = some claim ∧ s.Claimed claim fingerprint token ∧
        t.store = Function.update s.store (cooldownKey fingerprint) none := by
  obtain ⟨⟨turn, hrelease⟩, claimed, hclaimed⟩ := hreleases
  have hstore := store_of_executes hstep he hrelease
  by_cases hlive : s.store.live s.now (cooldownKey fingerprint) = some token
  · obtain ⟨expiresAt, hheld, -⟩ := Store.live_eq_some_iff.mp hlive
    obtain ⟨hwriter, hkey⟩ := h.owner _ _ claim claimed hheld hclaimed.draws
    obtain rfl := cooldownKey_injective hkey
    refine Or.inr ⟨hlive, hwriter, hclaimed, ?_⟩
    rw [hstore]
    simp only [CooldownCall.command, Command.exec, if_pos hlive]
  · refine Or.inl ⟨?_, hlive⟩
    rw [hstore]
    simp only [CooldownCall.command, Command.exec, if_neg hlive]

/-! ## A release that is repeated -/

/-- Where the token of a claim is not to be found, no event puts it but a command of that claim. -/
lemma Owned.not_live_step (h : s.Owned) {claim : ℕ} {fingerprint token k : PyStr}
    (hdraws : Draws s.calls claim fingerprint token) (hlive : s.store.live s.now k ≠ some token)
    {e : CooldownEvent} {t : CooldownState} (hstep : s.step e = .ok t)
    (he : s.executes e ≠ some claim) : t.store.live t.now k ≠ some token := by
  cases effect_of_step hstep with
  | @wait secs hsecs =>
      intro hnow
      obtain ⟨expiresAt, hheld, hlt⟩ := Store.live_eq_some_iff.mp hnow
      have hbefore : s.now < expiresAt := lt_of_le_of_lt (le_add_of_nonneg_right hsecs) hlt
      exact hlive (Store.live_of_lease hheld hbefore)
  | begin hid hfresh => exact hlive
  | @execute _ id call turn turn' inFlight he' hcall hturn =>
      show (s.execute id call.command).store.live (s.execute id call.command).now k ≠ some token
      rcases execute_cases s id call.command with heq | heq
      · rw [heq]
        exact hlive
      · rw [heq]
        intro hnow
        obtain ⟨expiresAt, hheld, hlt⟩ := Store.live_eq_some_iff.mp hnow
        by_cases hkey : k = call.command.key
        · simp only [hkey, Function.update_self] at hheld
          rcases CooldownCall.leaves_command hheld with ⟨f, n, rfl, -⟩ | hmarker
          · -- only the claim itself writes its token
            have hid : id = claim := h.distinct id claim f fingerprint token ⟨n, turn, hcall⟩ hdraws
            exact he (hid ▸ he')
          · exact (h.drawn claim fingerprint token hdraws).2 hmarker
        · simp only [Function.update_of_ne hkey] at hheld
          exact hlive (Store.live_of_lease hheld hlt)
  | fail hcall => exact hlive

/-- The same along a run. -/
lemma Owned.not_live_run {now : ℚ} {held : List (PyStr × Lease PyStr ℚ)} {release claim : ℕ}
    {fingerprint token : PyStr} (events : List CooldownEvent) : ∀ {s t : CooldownState}, s.Owned →
    s.Releases release claim fingerprint token →
    s.store.live s.now (cooldownKey fingerprint) ≠ some token →
    (cooldowns now held).runFrom s events = .ok t →
    (t.Owned ∧ t.Releases release claim fingerprint token ∧
      t.store.live t.now (cooldownKey fingerprint) ≠ some token) ∨
    ∃ before e after u, events = before ++ e :: after ∧
      (cooldowns now held).runFrom s before = .ok u ∧ u.executes e = some claim := by
  induction events with
  | nil =>
      intro s t h hreleases hlive hrun
      cases hrun
      exact Or.inl ⟨h, hreleases, hlive⟩
  | cons e events ih =>
      intro s t h hreleases hlive hrun
      by_cases he : s.executes e = some claim
      · exact Or.inr ⟨[], e, events, s, rfl, rfl, he⟩
      · cases hstep : s.step e with
        | error err =>
            have hfail : (cooldowns now held).step s e = .error err := hstep
            simp only [Machine.runFrom, hfail] at hrun
            cases hrun
        | ok u =>
            have hok : (cooldowns now held).step s e = .ok u := hstep
            simp only [Machine.runFrom, hok] at hrun
            have hdraws := hreleases.2.choose_spec.draws
            rcases ih (owned_step s e u h hstep) (hreleases.step hstep)
              (h.not_live_step hdraws hlive hstep he) hrun with hend | ⟨b, d, a, v, hs, hb, hd⟩
            · exact Or.inl hend
            · refine Or.inr ⟨e :: b, d, a, v, by rw [hs]; rfl, ?_, hd⟩
              simp only [Machine.runFrom, hok]
              exact hb

end CooldownState

open CooldownState

/-- **A release removes nothing but its own claim.**  Whenever the server executes the command of a
release whose token a claim has returned, the key holds that claim's value, as this claim has
written it, and is removed, or nothing happens.  Executed again, it does nothing, unless a command
of that very claim has been executed in between. -/
theorem release_removes_own {now : ℚ} {held : List (PyStr × Lease PyStr ℚ)}
    {events : List CooldownEvent} {s : CooldownState} (hrun : (cooldowns now held).run events = .ok s)
    {release claim : ℕ} {fingerprint token : PyStr}
    (hreleases : s.Releases release claim fingerprint token) {e : CooldownEvent}
    (he : s.executes e = some release) {t : CooldownState} (hstep : s.step e = .ok t) :
    (t.store = s.store ∨
      s.store.live s.now (cooldownKey fingerprint) = some token ∧
        s.writer (cooldownKey fingerprint) = some claim ∧ s.Claimed claim fingerprint token ∧
        t.store = Function.update s.store (cooldownKey fingerprint) none) ∧
      ∀ later u, (cooldowns now held).runFrom t later = .ok u →
        ∀ e' v, u.executes e' = some release → u.step e' = .ok v →
          v.store = u.store ∨
            ∃ before d after w, later = before ++ d :: after ∧
              (cooldowns now held).runFrom t before = .ok w ∧ w.executes d = some claim := by
  have howned : s.Owned := Machine.invariant (owned_init now held) owned_step hrun
  have hrelease := howned.release hreleases he hstep
  refine ⟨hrelease.imp And.left id, ?_⟩
  intro later u hlater e' v he' hv
  have hgone : t.store.live t.now (cooldownKey fingerprint) ≠ some token := by
    rw [now_of_executes hstep he]
    rcases hrelease with ⟨hsame, hlive⟩ | ⟨-, -, -, hremoved⟩
    · rw [hsame]
      exact hlive
    · rw [hremoved]
      simp [Store.live]
  rcases (owned_step s e t howned hstep).not_live_run later (hreleases.step hstep) hgone hlater with
    ⟨hu, hreleases', hlive⟩ | hlate
  · rcases hu.release hreleases' he' hv with ⟨hsame, -⟩ | ⟨hlive', -⟩
    · exact Or.inl hsame
    · exact absurd hlive' hlive
  · exact Or.inr hlate

/-- The first `SET NX` of a claim times out and stays on its way, the second one succeeds.  The
release is carried out, but its reply is lost. -/
def lostRelease : List CooldownEvent :=
  [.begin 0 (.claim (py "f") (py "a") 300), .attempt 0 (.failed .redisTimeoutError),
    .attempt 0 .answered, .begin 1 (.release (py "f") (py "a")),
    .attempt 1 (.failed .redisTimeoutError)]

theorem lostRelease_removes_own :
    ∃ s t, (cooldowns 0 []).run lostRelease = .ok s ∧ s.step (.arrive 0) = .ok t ∧
      (t.store = s.store ∨
        s.store.live s.now (cooldownKey (py "f")) = some (py "a") ∧
          s.writer (cooldownKey (py "f")) = some 0 ∧ s.Claimed 0 (py "f") (py "a") ∧
          t.store = Function.update s.store (cooldownKey (py "f")) none) := by
  have hrun : ∃ s, (cooldowns 0 []).run lostRelease = .ok s ∧
      s.calls 0 = some ⟨.claim (py "f") (py "a") 300, .returned true⟩ ∧
      s.calls 1 = some ⟨.release (py "f") (py "a"), .trying 2⟩ ∧
      s.executes (.arrive 0) = some 1 ∧ ∃ t, s.step (.arrive 0) = .ok t ∧ True := by
    decide +kernel
  obtain ⟨s, hs, hclaim, hrelease, he, t, ht, -⟩ := hrun
  exact ⟨s, t, hs, ht,
    (release_removes_own hs ⟨⟨_, hrelease⟩, py "f", 300, hclaim⟩ he ht).1⟩

/-- Then the first `SET NX` arrives and takes the key again, and the release that is sent again
removes it. -/
theorem lateClaim_released_again :
    ∃ s t, (cooldowns 0 []).run lostRelease = .ok s ∧ s.Releases 1 0 (py "f") (py "a") ∧
      s.executes (.arrive 0) = some 1 ∧ s.step (.arrive 0) = .ok t ∧
      ∃ u v, (cooldowns 0 []).runFrom t [.arrive 0] = .ok u ∧
        u.executes (.attempt 1 .answered) = some 1 ∧ u.step (.attempt 1 .answered) = .ok v ∧
        v.store ≠ u.store := by
  have hrun : ∃ s, (cooldowns 0 []).run lostRelease = .ok s ∧
      s.calls 0 = some ⟨.claim (py "f") (py "a") 300, .returned true⟩ ∧
      s.calls 1 = some ⟨.release (py "f") (py "a"), .trying 2⟩ ∧
      s.executes (.arrive 0) = some 1 ∧
      ∃ t, s.step (.arrive 0) = .ok t ∧
        ∃ u, (cooldowns 0 []).runFrom t [.arrive 0] = .ok u ∧
          ∃ v, u.step (.attempt 1 .answered) = .ok v ∧
            (v.store (cooldownKey (py "f"))).isSome ≠ (u.store (cooldownKey (py "f"))).isSome := by
    decide +kernel
  obtain ⟨s, hs, hclaim, hrelease, he, t, ht, u, hu, v, hv, hne⟩ := hrun
  refine ⟨s, t, hs, ⟨⟨_, hrelease⟩, py "f", 300, hclaim⟩, he, ht, u, v, hu, rfl, hv, ?_⟩
  intro hsame
  exact hne (by rw [hsame])

end Watchtower
