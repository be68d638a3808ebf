import WgSocket.Bind.Reinit

/-! The waits of `SocketReinit` end. Its `RcuSynchronize` waits for the read
sections that had begun by its swap, and `ExWaitForRundownProtectionRelease`
in `CloseSocket` for the receive wrappers of the socket still in flight;
neither waits for anything but senders finishing their sends and wrappers
being released, so no interleaving leaves a call stuck. -/

namespace wireguard

/-- The threads a call's `RcuSynchronize` still waits for: each once, and
    each inside its read section. -/
def WaitingOk (senders : Nat → SenderPc) : ReinitPc → Prop
  | .synchronizing _ Waiting => Waiting.Nodup ∧ ∀ t ∈ Waiting, (senders t).inSection = true
  | _ => True

def WaitInv (s : SwapSys) : Prop := ∀ c, WaitingOk s.senders (s.reinit c)

theorem WaitingOk.mono {senders senders' : Nat → SenderPc} {r : ReinitPc} (h : WaitingOk senders r)
    (hs : ∀ t, (senders t).inSection = true → (senders' t).inSection = true) : WaitingOk senders' r := by
  cases r with
  | synchronizing Old W => exact ⟨h.1, fun t ht => hs t (h.2 t ht)⟩
  | _ => trivial

/-- A sender leaving its read section leaves every wait it was in. -/
theorem WaitingOk.leave {senders : Nat → SenderPc} {r : ReinitPc} (t : Nat) (h : WaitingOk senders r) :
    WaitingOk (Function.update senders t .idle) (r.leave t) := by
  cases r with
  | synchronizing Old W =>
    refine ⟨h.1.erase t, fun t' ht' => ?_⟩
    obtain ⟨hne, hmem⟩ := h.1.mem_erase_iff.mp ht'
    rw [Function.update_noteq hne]
    exact h.2 t' hmem
  | _ => trivial

namespace WaitInv

variable {s s' : SwapSys}

theorem update {senders : Nat → SenderPc} {f : Nat → ReinitPc} {c : Nat} {r : ReinitPc}
    (h : ∀ c, WaitingOk senders (f c)) (hr : WaitingOk senders r) (c' : Nat) :
    WaitingOk senders (Function.update f c r c') :=
  (Function.forall_update_iff f fun _ r => WaitingOk senders r).mpr ⟨hr, fun c' _ => h c'⟩ c'

theorem step {a : SwapAction} (hw : WaitInv s) (h : s.step a = some s') : WaitInv s' := by
  cases a with
  | enter t Family =>
    obtain ⟨-, -, rfl⟩ := SwapSys.step_enter h
    refine fun c => (hw c).mono fun t' ht' => ?_
    show (Function.update s.senders t _ t').inSection = true
    rw [Function.update_apply]
    split
    · rfl
    · exact ht'
  | send t =>
    obtain ⟨-, -, rfl⟩ := SwapSys.step_send h
    exact fun c => (hw c).leave t
  | receive x Keep =>
    obtain ⟨-, -, rfl⟩ := SwapSys.step_receive h
    exact hw
  | release x =>
    obtain ⟨-, rfl⟩ := SwapSys.step_release h
    exact hw
  | reinit c New4 New6 =>
    obtain ⟨-, rfl⟩ := SwapSys.step_reinit h
    exact update hw ⟨(List.nodup_range _).filter _, fun t ht => (List.mem_filter.mp ht).2⟩
  | synchronize c =>
    obtain ⟨Old, -, rfl⟩ := SwapSys.step_synchronize h
    exact update hw (by split <;> trivial)
  | rundown c =>
    obtain ⟨x, rest, -, rfl⟩ := SwapSys.step_rundown h
    exact update hw trivial
  | close c IrpAllocate =>
    obtain ⟨x, rest, -, -, rfl⟩ := SwapSys.step_close h
    exact update hw trivial
  | free c =>
    obtain ⟨x, rest, -, rfl⟩ := SwapSys.step_free h
    exact update hw (by split <;> trivial)

end WaitInv

theorem SwapSys.Reachable.waitInv {threads : Nat} {ok : SwapAction → Prop} {s : SwapSys}
    (h : s.Reachable threads ok) : WaitInv s := by
  induction h with
  | init => exact fun _ => trivial
  | step _ _ _ hs ih => exact ih.step hs

theorem SwapSys.run_append (s : SwapSys) (as bs : List SwapAction) :
    s.run (as ++ bs) = (s.run as).bind fun s' => s'.run bs := by
  induction as generalizing s with
  | nil => rfl
  | cons a as ih =>
    simp only [List.cons_append, SwapSys.run]
    cases s.step a with
    | none => rfl
    | some s₁ => exact ih s₁

/-- The steps that let call `c` finish: a sender ending its send, a receive
    wrapper being released, and the call's own steps. -/
def SwapAction.finishing (c : Nat) : SwapAction → Bool
  | .send _ => true
  | .release _ => true
  | .synchronize c' => c' == c
  | .rundown c' => c' == c
  | .close c' _ => c' == c
  | .free c' => c' == c
  | _ => false

/-- From `s`, steps that let call `c` finish lead to a state where both
    invariants and `P` hold. -/
def Drains (c : Nat) (s : SwapSys) (P : SwapSys → Prop) : Prop :=
  ∃ as s', (∀ a ∈ as, a.finishing c = true) ∧ s.run as = some s' ∧ SwapInv s' ∧ WaitInv s' ∧ P s'

namespace Drains

variable {c : Nat} {s s₁ : SwapSys} {P Q : SwapSys → Prop}

theorem refl (hi : SwapInv s) (hw : WaitInv s) (hp : P s) : Drains c s P :=
  ⟨[], s, fun _ h => absurd h (List.not_mem_nil _), rfl, hi, hw, hp⟩

theorem step {a : SwapAction} (ha : a.finishing c = true) (hs : s.step a = some s₁) (h : Drains c s₁ P) :
    Drains c s P := by
  obtain ⟨as, s', hf, hr, rest⟩ := h
  exact ⟨a :: as, s', List.forall_mem_cons.mpr ⟨ha, hf⟩, by rw [SwapSys.run, hs]; exact hr,
    rest⟩

theorem trans (h : Drains c s P) (hk : ∀ s', SwapInv s' → WaitInv s' → P s' → Drains c s' Q) : Drains c s Q := by
  obtain ⟨as, s', hf, hr, hi, hw, hp⟩ := h
  obtain ⟨bs, s'', hg, hr', rest⟩ := hk s' hi hw hp
  refine ⟨as ++ bs, s'', fun a ha => ?_, by rw [SwapSys.run_append, hr]; exact hr', rest⟩
  rcases List.mem_append.mp ha with ha | ha
  · exact hf a ha
  · exact hg a ha

end Drains

section Finish

variable {c : Nat}

/-- `RcuSynchronize` of call `c` is released by the senders it waits for
    ending their sends. -/
theorem drains_waiting {Old : List Nat} (W : List Nat) :
    ∀ s, SwapInv s → WaitInv s → s.reinit c = .synchronizing Old W →
      Drains c s fun s' => s'.reinit c = .synchronizing Old [] := by
  induction W with
  | nil => exact fun s hi hw hr => .refl hi hw hr
  | cons t W ih =>
    intro s hi hw hr
    have hin : (s.senders t).inSection = true := by
      have hc := hw c
      rw [hr] at hc
      exact hc.2 t (List.mem_cons_self t W)
    have hen : (s.step (.send t)).isSome = true := by
      simp only [SwapSys.step]
      split <;> simp_all [SenderPc.inSection]
    obtain ⟨s₁, hs⟩ := Option.isSome_iff_exists.mp hen
    refine .step (a := .send t) rfl hs (ih s₁ (hi.step hs) (hw.step hs) ?_)
    obtain ⟨_, -, rfl⟩ := SwapSys.step_send hs
    simp only [hr, ReinitPc.leave, List.erase_cons_head]

/-- The rundown wait on socket `x` is released by its receive wrappers
    being released, one by one. -/
theorem drains_inFlight {x : Nat} {rest : List Nat} (n : Nat) :
    ∀ s, SwapInv s → WaitInv s → s.reinit c = .closing (x :: rest) true → (s.sockets x).ItemsInFlight = n →
      Drains c s fun s' => s'.reinit c = .closing (x :: rest) true ∧ (s'.sockets x).ItemsInFlight = 0 := by
  induction n with
  | zero => exact fun s hi hw hr hn => .refl hi hw ⟨hr, hn⟩
  | succ n ih =>
    intro s hi hw hr hn
    have hen : (s.step (.release x)).isSome = true := by
      simp [SwapSys.step, hn]
    obtain ⟨s₁, hs⟩ := Option.isSome_iff_exists.mp hen
    refine .step (a := .release x) rfl hs (ih s₁ (hi.step hs) (hw.step hs) ?_ ?_)
    all_goals obtain ⟨-, rfl⟩ := SwapSys.step_release hs
    · exact hr
    · simp [hn]

/-- A call closing its old sockets closes each in turn: rundown, the wait
    for its receive wrappers, `WskCloseSocket`, then `MemFree`; and so does
    one already at `MemFree`. -/
theorem drains_closing (Old : List Nat) :
    (∀ (b : Bool) s, SwapInv s → WaitInv s → s.reinit c = .closing Old b →
      Drains c s fun s' => s'.reinit c = .idle) ∧
    (∀ s, SwapInv s → WaitInv s → s.reinit c = .freeing Old → Drains c s fun s' => s'.reinit c = .idle) := by
  induction Old with
  | nil => exact ⟨fun _ _ hi _ hr => absurd rfl (hi.closeOk hr).ne_nil, fun _ hi _ hr => absurd rfl (hi.freeOk hr).1.ne_nil⟩
  | cons x rest ih =>
    have freeing : ∀ s, SwapInv s → WaitInv s → s.reinit c = .freeing (x :: rest) →
        Drains c s fun s' => s'.reinit c = .idle := by
      intro s hi hw hr
      have hen : (s.step (.free c)).isSome = true := by
        simp [SwapSys.step, hr]
      obtain ⟨s₁, hs⟩ := Option.isSome_iff_exists.mp hen
      refine .step (by simp [SwapAction.finishing]) hs ?_
      have hr₁ : s₁.reinit c = if rest.isEmpty then .idle else .closing rest false := by
        obtain ⟨_, _, hc, rfl⟩ := SwapSys.step_free hs
        rw [hr] at hc
        cases hc
        simp
      cases rest with
      | nil => exact .refl (hi.step hs) (hw.step hs) hr₁
      | cons y ys => exact ih.1 false s₁ (hi.step hs) (hw.step hs) hr₁
    have started : ∀ s, SwapInv s → WaitInv s → s.reinit c = .closing (x :: rest) true →
        Drains c s fun s' => s'.reinit c = .idle := by
      intro s hi hw hr
      refine (drains_inFlight _ s hi hw hr rfl).trans fun s₂ hi₂ hw₂ ⟨hr₂, hz⟩ => ?_
      have hen : (s₂.step (.close c true)).isSome = true := by
        simp [SwapSys.step, hr₂, hz]
      obtain ⟨s₃, hs⟩ := Option.isSome_iff_exists.mp hen
      refine .step (by simp [SwapAction.finishing]) hs (freeing s₃ (hi₂.step hs) (hw₂.step hs) ?_)
      obtain ⟨_, _, hc, -, rfl⟩ := SwapSys.step_close hs
      rw [hr₂] at hc
      cases hc
      simp
    refine ⟨fun b s hi hw hr => ?_, freeing⟩
    cases b with
    | true => exact started s hi hw hr
    | false =>
      have hen : (s.step (.rundown c)).isSome = true := by
        simp [SwapSys.step, hr]
      obtain ⟨s₁, hs⟩ := Option.isSome_iff_exists.mp hen
      refine .step (by simp [SwapAction.finishing]) hs (started s₁ (hi.step hs) (hw.step hs) ?_)
      obtain ⟨_, _, hc, rfl⟩ := SwapSys.step_rundown hs
      rw [hr] at hc
      cases hc
      simp

theorem drains_call (s : SwapSys) (hi : SwapInv s) (hw : WaitInv s) : Drains c s fun s' => s'.reinit c = .idle := by
  cases hr : s.reinit c with
  | idle => exact .refl hi hw hr
  | closing Old b => exact (drains_closing Old).1 b s hi hw hr
  | freeing Old => exact (drains_closing Old).2 s hi hw hr
  | synchronizing Old W =>
    refine (drains_waiting W s hi hw hr).trans fun s₁ hi₁ hw₁ hr₁ => ?_
    have hen : (s₁.step (.synchronize c)).isSome = true := by
      simp [SwapSys.step, hr₁]
    obtain ⟨s₂, hs⟩ := Option.isSome_iff_exists.mp hen
    refine .step (by simp [SwapAction.finishing]) hs ?_
    have hr₂ : s₂.reinit c = if Old.isEmpty then .idle else .closing Old false := by
      obtain ⟨_, hc, rfl⟩ := SwapSys.step_synchronize hs
      rw [hr₁] at hc
      cases hc
      simp
    cases Old with
    | nil => exact .refl (hi₁.step hs) (hw₁.step hs) hr₂
    | cons x rest => exact (drains_closing _).1 false s₂ (hi₁.step hs) (hw₁.step hs) hr₂

end Finish

/-- No interleaving leaves a call of `SocketReinit` stuck: from every
    reachable state, senders finishing their sends, receive wrappers being
    released and the call's own steps, with no new send, receive or swap,
    bring the call to its end. -/
theorem socketReinit_call_finishes {threads : Nat} {ok : SwapAction → Prop} {s : SwapSys}
    (h : s.Reachable threads ok) (c : Nat) :
    ∃ as s', (∀ a ∈ as, a.finishing c = true) ∧ s.run as = some s' ∧ s'.reinit c = .idle := by
  obtain ⟨as, s', hf, hr, -, -, hidle⟩ := drains_call s h.inv h.waitInv (c := c)
  exact ⟨as, s', hf, hr, hidle⟩

/-- Call 1 swaps the socket call 0 published while a sender holds it:
    `RcuSynchronize` of call 1 waits for that sender. -/
theorem socketReinit_call_finishes_while_sender_holds :
    ∃ s, (SwapSys.init 1).run [.reinit 0 true false, .synchronize 0, .enter 0 AF_INET, .reinit 1 false false] = some s ∧
      ∃ as s', (∀ a ∈ as, a.finishing 1 = true) ∧ s.run as = some s' ∧ s'.reinit 1 = .idle := by
  obtain ⟨s, hr⟩ : ∃ s, (SwapSys.init 1).run
      [.reinit 0 true false, .synchronize 0, .enter 0 AF_INET, .reinit 1 false false] = some s := ⟨_, rfl⟩
  have hreach : s.Reachable 1 fun _ => True := SwapSys.Reachable.init.run (fun _ _ => trivial) hr
  exact ⟨s, hr, socketReinit_call_finishes hreach 1⟩

end wireguard
