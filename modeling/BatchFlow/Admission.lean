import BatchFlow.Delivery

/-!
# Which Submit calls are turned away

Submit reads its own context first and `closed` second, so a call whose context is
already done when it starts, or that starts once `closed` is set, returns an error
and never sends. Both checks come before the `select`: a context cancelled after them
can still lose to the send, since Go picks either ready case.

`closed` is not the lifecycle context: the latch goroutine sets it only after
`<-ctx.Done()` returns. A Submit call that runs between the cancellation and the latch
passes both checks and sends, although the comment over the closed check says that
such a call is rejected.
-/

namespace BatchFlow

/-- A Submit call that can only end in an error, given `closed`: it is yet to read a
context already done, or a `closed` already set, or it has returned an error. -/
def Submitter.Rejecting (closed : Bool) (sub : Submitter) : Prop :=
  (sub.pc = .checkCtx ∧ (sub.ctxErr ≠ none ∨ closed = true)) ∨
    (sub.pc = .checkClosed ∧ closed = true) ∨ ∃ e, sub.pc = .returned (some e)

def Engine.Rejecting (s : Engine) (id : Nat) : Prop :=
  ∃ sub, s.submitters[id]? = some sub ∧ sub.Rejecting s.closed

theorem Submitter.Rejecting.not_accepted {closed : Bool} {sub : Submitter}
    (h : sub.Rejecting closed) : sub.accepted = false := by
  rcases h with ⟨hpc, -⟩ | ⟨hpc, -⟩ | ⟨e, hpc⟩ <;> simp [Submitter.accepted, hpc]

/-- A step that rewrites call `j`'s record keeps call `id` rejecting, provided the new
record of `j` rejects whenever the old one did. -/
theorem Engine.Rejecting.of_set {s s' : Engine} {id j : Nat} {sub sub' : Submitter}
    (h : s.Rejecting id) (hsub : s.submitters[j]? = some sub)
    (hs' : s'.submitters = s.submitters.set j sub') (hclosed : s'.closed = s.closed)
    (hkeep : sub.Rejecting s.closed → sub'.Rejecting s.closed) : s'.Rejecting id := by
  obtain ⟨sub₀, h₀, hr⟩ := h
  unfold Engine.Rejecting
  rw [hclosed]
  by_cases hj : j = id
  · subst hj
    rw [hsub] at h₀
    cases h₀
    exact ⟨sub', by simp [hs', List.getElem?_set, (List.getElem?_eq_some_iff.1 hsub).1], hkeep hr⟩
  · exact ⟨sub₀, by simp [hs', List.getElem?_set, hj, h₀], hr⟩

theorem Transition.rejecting {cfg : PipelineConfig} {s s' : Engine} (h : Transition cfg s s')
    {id : Nat} (hr : s.Rejecting id) : s'.Rejecting id := by
  cases h with
  | submit sub _ =>
    obtain ⟨sub₀, h₀, hpc⟩ := hr
    exact ⟨sub₀, by rw [List.getElem?_append_left (List.getElem?_eq_some_iff.1 h₀).1, h₀], hpc⟩
  | cancelSubmit hsub _ =>
    refine hr.of_set hsub rfl rfl fun h => ?_
    rcases h with ⟨hpc, -⟩ | h | h
    · exact .inl ⟨hpc, .inl (by simp)⟩
    · exact .inr (.inl h)
    · exact .inr (.inr h)
  | cancelLifecycle => exact hr
  | latch =>
    obtain ⟨sub, hsub, hpc⟩ := hr
    refine ⟨sub, hsub, ?_⟩
    rcases hpc with ⟨hpc, -⟩ | ⟨hpc, -⟩ | hpc
    · exact .inl ⟨hpc, .inr rfl⟩
    · exact .inr (.inl ⟨hpc, rfl⟩)
    · exact .inr (.inr hpc)
  | advance hsub hadv =>
    refine hr.of_set hsub rfl rfl fun h => ?_
    cases hadv <;> simp_all [Submitter.Rejecting]
  | enqueue hsub hpcs =>
    refine hr.of_set hsub rfl rfl fun h => ?_
    rcases h with ⟨hpc, -⟩ | ⟨hpc, -⟩ | ⟨e, hpc⟩ <;> simp [hpc] at hpcs
  | receive _ _ | drain _ _ => split <;> exact hr
  | tick _ => exact hr

theorem Engine.Rejecting.not_accepted {s : Engine} {id : Nat} (h : s.Rejecting id) :
    s.accepted id = false := by
  obtain ⟨sub, hsub, hr⟩ := h
  simp [Engine.accepted, hsub, hr.not_accepted]

/-- A Submit call whose own context is already done when it starts, or that starts once
`closed` is set, never enqueues its request, and if it returns, it returns an error. -/
theorem submit_rejected_when_started_cancelled {cfg : PipelineConfig} {s : Engine}
    (hs : Reachable cfg s) {id : Nat} {sub : Submitter} (hsub : s.submitters[id]? = some sub)
    (hpc : sub.pc = .checkCtx) (hdone : sub.ctxErr ≠ none ∨ s.closed = true) {s' : Engine}
    (hss : Relation.ReflTransGen (Next cfg) s s') :
    id ∉ s'.poolIds ∧ ∀ sub', s'.submitters[id]? = some sub' →
      ∀ err, sub'.pc = .returned err → err ≠ none := by
  have hr : s'.Rejecting id := by
    induction hss with
    | refl => exact ⟨sub, hsub, .inl ⟨hpc, hdone⟩⟩
    | tail _ hstep ih =>
      obtain ⟨a, ha⟩ := hstep
      exact (step_transition ha).rejecting ih
  refine ⟨fun hmem => ?_, fun sub' hsub' err hret => ?_⟩
  · have := ((reachable_poolInv (hs.trans hss)).mem_iff id).1 hmem
    rw [hr.not_accepted] at this
    cases this
  · obtain ⟨sub₀, h₀, hpc₀⟩ := hr
    rw [hsub'] at h₀
    cases h₀
    rcases hpc₀ with ⟨hpc₀, -⟩ | ⟨hpc₀, -⟩ | ⟨e, hpc₀⟩ <;> rw [hpc₀] at hret <;> cases hret
    simp

/-- A Submit call started with a context that is already cancelled. -/
def cancelledSubmitTrace : List Action :=
  [.submit (some .canceled) (some usersRequest)]

/-- A Submit call started with a live context once the latch has set `closed`. -/
def latchedSubmitTrace : List Action :=
  [.cancelLifecycle .canceled, .latch, .submit none (some usersRequest)]

/-- Each call runs until it returns: the first at its context check, the second at the
closed check. -/
theorem submit_rejected_when_started_cancelled_users :
    (Reachable unitConfig (replay unitConfig cancelledSubmitTrace) ∧
      (replay unitConfig cancelledSubmitTrace).submitters[0]? =
        some ⟨some .canceled, some usersRequest, .checkCtx⟩ ∧
      Relation.ReflTransGen (Next unitConfig) (replay unitConfig cancelledSubmitTrace)
        (replay unitConfig (cancelledSubmitTrace ++ [.step 0])) ∧
      (0 ∉ (replay unitConfig (cancelledSubmitTrace ++ [.step 0])).poolIds ∧
        ∀ sub', (replay unitConfig (cancelledSubmitTrace ++ [.step 0])).submitters[0]? = some sub' →
          ∀ err, sub'.pc = .returned err → err ≠ none)) ∧
    (Reachable unitConfig (replay unitConfig latchedSubmitTrace) ∧
      (replay unitConfig latchedSubmitTrace).submitters[0]? =
        some ⟨none, some usersRequest, .checkCtx⟩ ∧
      (replay unitConfig latchedSubmitTrace).closed = true ∧
      Relation.ReflTransGen (Next unitConfig) (replay unitConfig latchedSubmitTrace)
        (replay unitConfig (latchedSubmitTrace ++ [.step 0, .step 0])) ∧
      (0 ∉ (replay unitConfig (latchedSubmitTrace ++ [.step 0, .step 0])).poolIds ∧
        ∀ sub', (replay unitConfig (latchedSubmitTrace ++ [.step 0, .step 0])).submitters[0]? =
            some sub' → ∀ err, sub'.pc = .returned err → err ≠ none)) :=
  have hs₁ := replay_reachable unitConfig cancelledSubmitTrace rfl
  have hsub₁ : (replay unitConfig cancelledSubmitTrace).submitters[0]? =
      some ⟨some .canceled, some usersRequest, .checkCtx⟩ := rfl
  have hss₁ : Relation.ReflTransGen (Next unitConfig) (replay unitConfig cancelledSubmitTrace)
      (replay unitConfig (cancelledSubmitTrace ++ [.step 0])) := run_steps unitConfig [.step 0] rfl
  have hs₂ := replay_reachable unitConfig latchedSubmitTrace rfl
  have hsub₂ : (replay unitConfig latchedSubmitTrace).submitters[0]? =
      some ⟨none, some usersRequest, .checkCtx⟩ := rfl
  have hss₂ : Relation.ReflTransGen (Next unitConfig) (replay unitConfig latchedSubmitTrace)
      (replay unitConfig (latchedSubmitTrace ++ [.step 0, .step 0])) :=
    run_steps unitConfig [.step 0, .step 0] rfl
  ⟨⟨hs₁, hsub₁, hss₁,
      submit_rejected_when_started_cancelled hs₁ hsub₁ rfl (.inl (Option.some_ne_none _)) hss₁⟩,
    ⟨hs₂, hsub₂, rfl, hss₂, submit_rejected_when_started_cancelled hs₂ hsub₂ rfl (.inr rfl) hss₂⟩⟩

/-- Submit 0 passes both checks with a live context and blocks in the `select`; its
context is then cancelled, and Go picks the send. -/
def cancelInSelectTrace : List Action :=
  [.submit none (some usersRequest), .step 0, .step 0, .step 0, .cancelSubmit 0 .canceled]

/-- Submit reads its context only before the `select`: one cancelled while it waits
there can still lose to the send. -/
example :
    Reachable unitConfig (replay unitConfig cancelInSelectTrace) ∧
      ((replay unitConfig cancelInSelectTrace).submitters[0]?.bind Submitter.ctxErr) =
        some .canceled ∧
      (replay unitConfig (cancelInSelectTrace ++ [.step 0])).accepted 0 = true :=
  ⟨replay_reachable _ _ rfl, rfl, rfl⟩

/-- The lifecycle context is cancelled before the latch sets `closed`; a Submit call
started in between passes both checks and blocks in the `select` with its request. -/
def lifecycleWindowTrace : List Action :=
  [.cancelLifecycle .canceled, .submit none (some usersRequest), .step 0, .step 0, .step 0]

/-- A step that enqueues Submit 0's request while the lifecycle context is already
cancelled, the latch not having set `closed` yet; the call then returns nil. -/
theorem submit_enqueues_after_lifecycle_cancel :
    ∃ s s', Reachable unitConfig s ∧ s.lifecycleErr = some .canceled ∧ s.closed = false ∧
      0 ∉ s.poolIds ∧ step unitConfig s (.step 0) = some s' ∧
      0 ∈ s'.buffer.map Entry.id ∧ s'.accepted 0 = true :=
  ⟨replay unitConfig lifecycleWindowTrace,
    replay unitConfig (lifecycleWindowTrace ++ [Action.step 0]),
    replay_reachable _ _ rfl, rfl, rfl, by decide, rfl, by decide, rfl⟩

end BatchFlow
