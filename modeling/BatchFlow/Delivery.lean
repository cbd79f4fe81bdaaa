import BatchFlow.Engine

/-!
# What reaches the flush function

The requests the engine holds, in the channel, in the loop's batch or in a flushed
batch, are exactly those of the Submit calls that returned nil, each once, and each is
what Submit's checks made of the call's argument. So every batch the flush function
gets holds valid requests, no request is flushed twice, requests reach the flush
function in the order they entered the channel, and a request accepted while the loop
runs is flushed exactly once by the time the loop stops.

A request accepted after the loop's final drain is the exception: the lifecycle
context is done, but the goroutine that sets `closed` has not run yet, so Submit's
check passes and the send finds room in a channel nobody reads again.
-/

namespace BatchFlow

/-- The requests the engine holds: in the channel, in the loop's batch, or flushed. -/
def Engine.pool (s : Engine) : List Entry :=
  s.buffer ++ s.batch ++ s.flushed.flatten

def Engine.poolIds (s : Engine) : List Nat :=
  s.pool.map Entry.id

theorem Engine.accepted_set {s s' : Engine} {id : Nat} {sub sub' : Submitter}
    (hsub : s.submitters[id]? = some sub) (hs' : s'.submitters = s.submitters.set id sub')
    (i : Nat) : s'.accepted i = if id = i then sub'.accepted else s.accepted i := by
  have hlt : id < s.submitters.length := (List.getElem?_eq_some_iff.1 hsub).1
  by_cases hi : id = i
  · subst hi; simp [Engine.accepted, hs', List.getElem?_set, hlt]
  · simp [Engine.accepted, hs', List.getElem?_set, hi]

theorem Engine.accepted_set_of_eq {s : Engine} {id : Nat} {sub sub' : Submitter}
    (hsub : s.submitters[id]? = some sub) (h : sub'.accepted = sub.accepted) (i : Nat) :
    ({ s with submitters := s.submitters.set id sub' } : Engine).accepted i = s.accepted i := by
  rw [Engine.accepted_set hsub rfl]
  split
  · subst_vars; simp [Engine.accepted, hsub, h]
  · rfl

theorem Engine.accepted_append {s : Engine} {sub : Submitter} (hsub : sub.accepted = false)
    (i : Nat) : ({ s with submitters := s.submitters ++ [sub] } : Engine).accepted i =
      s.accepted i := by
  simp only [Engine.accepted]
  rcases Nat.lt_trichotomy i s.submitters.length with hi | rfl | hi
  · rw [List.getElem?_append_left hi]
  · simp [hsub, List.getElem?_concat_length]
  · rw [List.getElem?_append_right hi.le, List.getElem?_eq_none hi.le,
      List.getElem?_eq_none (by simp; omega)]

theorem Advance.not_accepted {s : Engine} {sub : Submitter} {pc : SubmitPc}
    (h : Advance s sub pc) :
    sub.accepted = false ∧ ({ sub with pc := pc } : Submitter).accepted = false := by
  cases h <;> simp_all [Submitter.accepted]

theorem pool_receive (cfg : PipelineConfig) {s : Engine} {e : Entry} {rest : List Entry}
    (hb : s.buffer = e :: rest) :
    (if cfg.flushSize ≤ (s.batch ++ [e]).length
      then { s with buffer := rest }.flush (s.batch ++ [e])
      else { s with buffer := rest, batch := s.batch ++ [e] }).pool.Perm s.pool := by
  split <;> exact List.perm_iff_count.2 fun a => by
    simp only [Engine.pool, Engine.flush, hb, List.count_append, List.count_cons,
      List.flatten_append, List.flatten_cons, List.flatten_nil, List.append_nil, List.count_nil]
    omega

theorem pool_tick (s : Engine) : (s.flush s.batch).pool.Perm s.pool :=
  List.perm_iff_count.2 fun a => by
    simp only [Engine.pool, Engine.flush, List.count_append, List.flatten_append,
      List.flatten_cons, List.flatten_nil, List.append_nil, List.count_nil]
    omega

/-- The drain leaves everything in the flushed batches. -/
theorem pool_drain (s : Engine) :
    ({ (if (s.batch ++ s.buffer).isEmpty then s else s.flush (s.batch ++ s.buffer))
      with buffer := [], batch := [], running := false } : Engine).pool.Perm s.pool := by
  split
  · rename_i hempty
    simp only [List.isEmpty_iff, List.append_eq_nil] at hempty
    simp [Engine.pool, hempty.1, hempty.2]
  · exact List.perm_iff_count.2 fun a => by
      simp only [Engine.pool, Engine.flush, List.count_append, List.flatten_append,
        List.flatten_cons, List.flatten_nil, List.append_nil, List.count_nil]
      omega

theorem Engine.flushedIds_eq_poolIds {s : Engine} (hbuf : s.buffer = []) (hbatch : s.batch = []) :
    s.flushedIds = s.poolIds := by
  simp [Engine.flushedIds, Engine.poolIds, Engine.pool, hbuf, hbatch]

/-- The ids the engine holds are exactly the accepted Submit calls, each once. -/
structure PoolInv (s : Engine) : Prop where
  nodup : s.poolIds.Nodup
  mem_iff : ∀ i, i ∈ s.poolIds ↔ s.accepted i = true

theorem PoolInv.of_perm {s s' : Engine} (hi : PoolInv s) (hp : s'.pool.Perm s.pool)
    (ha : ∀ i, s'.accepted i = s.accepted i) : PoolInv s' :=
  have hp : s'.poolIds.Perm s.poolIds := hp.map Entry.id
  ⟨hp.nodup_iff.2 hi.nodup, fun i => by rw [hp.mem_iff, hi.mem_iff, ha]⟩

/-- Changing a Submit call's record without changing whether it returned nil keeps the
invariant. -/
theorem PoolInv.of_set {s : Engine} {id : Nat} {sub sub' : Submitter} (hi : PoolInv s)
    (hsub : s.submitters[id]? = some sub) (h : sub'.accepted = sub.accepted) :
    PoolInv { s with submitters := s.submitters.set id sub' } :=
  hi.of_perm (by rfl) (Engine.accepted_set_of_eq hsub h)

theorem PoolInv.flushedIds_sublist (s : Engine) : s.flushedIds.Sublist s.poolIds := by
  simp only [Engine.flushedIds, Engine.poolIds, Engine.pool, List.map_append]
  exact List.sublist_append_right _ _

theorem PoolInv.flushedIds_nodup {s : Engine} (hi : PoolInv s) : s.flushedIds.Nodup :=
  hi.nodup.sublist (flushedIds_sublist s)

theorem pool_enqueue (s : Engine) (id : Nat) (sub : Submitter) (x : Entry) :
    ({ s.setPc id sub (.returned none) with buffer := s.buffer ++ [x] } : Engine).pool.Perm
      (x :: s.pool) := by
  simp only [Engine.pool, Engine.setPc, List.append_assoc, List.singleton_append]
  exact List.perm_middle

theorem Transition.poolInv {cfg : PipelineConfig} {s s' : Engine} (h : Transition cfg s s')
    (hi : PoolInv s) : PoolInv s' := by
  cases h with
  | submit sub hpc =>
    exact hi.of_perm (by rfl) (Engine.accepted_append (by simp [Submitter.accepted, hpc]))
  | cancelSubmit hsub _ => exact hi.of_set hsub rfl
  | cancelLifecycle | latch => exact hi.of_perm (by rfl) fun _ => rfl
  | advance hsub hadv => exact hi.of_set hsub (hadv.not_accepted.2.trans hadv.not_accepted.1.symm)
  | @enqueue id sub v hsub hpc =>
    have hnot : s.accepted id = false := by simp [Engine.accepted, hsub, Submitter.accepted, hpc]
    have hperm : (Engine.poolIds { s.setPc id sub (.returned none) with
        buffer := s.buffer ++ [⟨id, v⟩] }).Perm (id :: s.poolIds) :=
      (pool_enqueue s id sub ⟨id, v⟩).map Entry.id
    have hfresh : id ∉ s.poolIds := by rw [hi.mem_iff, hnot]; simp
    refine ⟨hperm.nodup_iff.2 (List.nodup_cons.2 ⟨hfresh, hi.nodup⟩), fun i => ?_⟩
    have hacc : ({ s.setPc id sub (.returned none) with buffer := s.buffer ++ [⟨id, v⟩] } :
        Engine).accepted i = if id = i then true else s.accepted i := by
      rw [Engine.accepted_set hsub rfl]; rfl
    rw [hperm.mem_iff, List.mem_cons, hi.mem_iff, hacc]
    by_cases hid : id = i
    · subst hid; simp
    · simp [hid, Ne.symm hid]
  | receive _ hb => exact hi.of_perm (pool_receive cfg hb) fun _ => by split <;> rfl
  | tick _ => exact hi.of_perm (pool_tick s) fun _ => rfl
  | drain _ _ => exact hi.of_perm (pool_drain s) fun _ => by split <;> rfl

theorem reachable_poolInv {cfg : PipelineConfig} {s : Engine} (hs : Reachable cfg s) :
    PoolInv s := by
  induction hs with
  | refl => exact ⟨List.nodup_nil, fun i => by simp [Engine.poolIds, Engine.pool, Engine.init, Engine.accepted]⟩
  | tail _ hstep ih =>
    obtain ⟨a, ha⟩ := hstep
    exact (step_transition ha).poolInv ih

/-- Every held request is what its Submit call's checks made of its argument, and so
is every request a Submit call is about to send. -/
structure OriginInv (s : Engine) : Prop where
  pool : ∀ e ∈ s.pool, ∃ sub, s.submitters[e.id]? = some sub ∧
    validateRequest sub.request = .ok e.request
  sending : ∀ (id : Nat) (sub : Submitter) (v : ValidRequest), s.submitters[id]? = some sub →
    sub.pc = .send v → validateRequest sub.request = .ok v

/-- Setting one Submit call's record to one with the same argument keeps every
call's argument. -/
theorem getElem?_set_request {l : List Submitter} {id i : Nat} {sub sub' sub₀ : Submitter}
    (hsub : l[id]? = some sub) (hreq : sub'.request = sub.request) (h₀ : l[i]? = some sub₀) :
    ∃ sub₁, (l.set id sub')[i]? = some sub₁ ∧ sub₁.request = sub₀.request := by
  by_cases hi : id = i
  · subst hi
    rw [hsub] at h₀
    cases h₀
    exact ⟨sub', by simp [List.getElem?_set, (List.getElem?_eq_some_iff.1 hsub).1], hreq⟩
  · exact ⟨sub₀, by simp [List.getElem?_set, hi, h₀], rfl⟩

theorem getElem?_set_cases {l : List Submitter} {id j : Nat} {sub' sub'' : Submitter}
    (h : (l.set id sub')[j]? = some sub'') : (id = j ∧ sub'' = sub') ∨ (id ≠ j ∧ l[j]? = some sub'') := by
  rw [List.getElem?_set] at h
  split at h
  · split at h
    · cases h; exact .inl ⟨‹_›, rfl⟩
    · cases h
  · exact .inr ⟨‹_›, h⟩

theorem getElem?_append_singleton_cases {l : List Submitter} {a b : Submitter} {j : Nat}
    (h : (l ++ [a])[j]? = some b) : l[j]? = some b ∨ b = a := by
  rcases Nat.lt_or_ge j l.length with hj | hj
  · exact .inl (by rwa [List.getElem?_append_left hj] at h)
  · rw [List.getElem?_append_right hj] at h
    rcases Nat.eq_zero_or_pos (j - l.length) with h0 | h0
    · rw [h0] at h; cases h; exact .inr rfl
    · have hlen : [a].length ≤ j - l.length := by simp only [List.length_singleton]; omega
      simp [List.getElem?_eq_none hlen] at h

theorem OriginInv.of_loop {s s' : Engine} (hi : OriginInv s) (hp : s'.pool.Perm s.pool)
    (hsub : s'.submitters = s.submitters) : OriginInv s' :=
  ⟨fun e he => hsub ▸ hi.pool e (hp.subset he), hsub ▸ hi.sending⟩

theorem OriginInv.of_set {s : Engine} {id : Nat} {sub : Submitter} (hi : OriginInv s)
    (hsub : s.submitters[id]? = some sub) (sub' : Submitter) (hreq : sub'.request = sub.request)
    {e : Entry}
    (he : e ∈ s.pool) : ∃ sub₁, (s.submitters.set id sub')[e.id]? = some sub₁ ∧
      validateRequest sub₁.request = .ok e.request := by
  obtain ⟨sub₀, h₀, hval⟩ := hi.pool e he
  obtain ⟨sub₁, h₁, hreq₁⟩ := getElem?_set_request hsub hreq h₀
  exact ⟨sub₁, h₁, hreq₁ ▸ hval⟩

theorem Transition.originInv {cfg : PipelineConfig} {s s' : Engine} (h : Transition cfg s s')
    (hi : OriginInv s) : OriginInv s' := by
  cases h with
  | submit sub hpc =>
    refine ⟨fun e he => ?_, fun id sub' v hs hv => ?_⟩
    · obtain ⟨sub₀, h₀, hval⟩ := hi.pool e he
      exact ⟨sub₀, by rw [List.getElem?_append_left (List.getElem?_eq_some_iff.1 h₀).1, h₀], hval⟩
    · rcases getElem?_append_singleton_cases hs with hs | rfl
      · exact hi.sending id sub' v hs hv
      · simp [hpc] at hv
  | @cancelSubmit id sub err hsub _ =>
    refine ⟨fun e he => hi.of_set hsub { sub with ctxErr := some err } rfl he,
      fun j sub' v hs hv => ?_⟩
    rcases getElem?_set_cases hs with ⟨rfl, rfl⟩ | ⟨-, hs⟩
    · exact hi.sending _ sub v hsub hv
    · exact hi.sending j sub' v hs hv
  | cancelLifecycle | latch => exact ⟨hi.pool, hi.sending⟩
  | @advance id sub pc hsub hadv =>
    refine ⟨fun e he => hi.of_set hsub { sub with pc := pc } rfl he, fun j sub' v hs hv => ?_⟩
    rcases getElem?_set_cases hs with ⟨rfl, rfl⟩ | ⟨-, hs⟩
    · cases hadv <;> simp_all
    · exact hi.sending j sub' v hs hv
  | @enqueue id sub v hsub hpc =>
    refine ⟨fun e he => ?_, fun j sub' v' hs hv => ?_⟩
    · rcases List.mem_cons.1 ((pool_enqueue s id sub ⟨id, v⟩).subset he) with rfl | he
      · exact ⟨{ sub with pc := .returned none },
          by simp [Engine.setPc, List.getElem?_set, (List.getElem?_eq_some_iff.1 hsub).1],
          hi.sending _ sub v hsub hpc⟩
      · exact hi.of_set hsub { sub with pc := .returned none } rfl he
    · rcases getElem?_set_cases hs with ⟨rfl, rfl⟩ | ⟨-, hs⟩
      · simp at hv
      · exact hi.sending j sub' v' hs hv
  | receive _ hb => exact hi.of_loop (pool_receive cfg hb) (by split <;> rfl)
  | tick _ => exact hi.of_loop (pool_tick s) rfl
  | drain _ _ => exact hi.of_loop (pool_drain s) (by split <;> rfl)

theorem reachable_originInv {cfg : PipelineConfig} {s : Engine} (hs : Reachable cfg s) :
    OriginInv s := by
  induction hs with
  | refl => exact ⟨fun e he => by simp [Engine.pool, Engine.init] at he,
      fun _ _ _ h => by simp [Engine.init] at h⟩
  | tail _ hstep ih =>
    obtain ⟨a, ha⟩ := hstep
    exact (step_transition ha).originInv ih

/-- The requests of a flushed batch, as the flush function receives them. -/
def batchData (batch : List Entry) : List Request :=
  batch.map (·.request.request)

/-- Every request the engine flushes is what Submit's checks made of the argument of a
Submit call that returned nil, and every `ExecuteBatch` call the flush function makes
on such a batch gets a schema that passed those checks and a non-empty list of rows. -/
theorem flushed_batches_valid {cfg : PipelineConfig} {s : Engine} (hs : Reachable cfg s)
    {batch : List Entry} (hb : batch ∈ s.flushed) (env : FlushEnv)
    (order : RangeOrder (groupBySchema (batchData batch)).keys) :
    (∀ e ∈ batch, s.accepted e.id = true ∧ ∃ sub, s.submitters[e.id]? = some sub ∧
      validateRequest sub.request = .ok e.request) ∧
    ∀ c ∈ (flushFunc env (batchData batch) order).calls,
      ∃ sch, c.schema = some sch ∧ SchemaValid sch ∧ c.data ≠ [] := by
  have hpool : ∀ e ∈ batch, e ∈ s.pool := fun e he => by
    simp only [Engine.pool, List.mem_append, List.mem_flatten]
    exact .inr ⟨batch, hb, he⟩
  refine ⟨fun e he => ⟨((reachable_poolInv hs).mem_iff e.id).1
      (List.mem_map_of_mem _ (hpool e he)), (reachable_originInv hs).pool e (hpool e he)⟩,
    fun c hc => ?_⟩
  have hsome : ∀ r ∈ batchData batch, r.schema ≠ none := by
    simp only [batchData, List.mem_map]
    rintro _ ⟨e, -, rfl⟩
    simp [e.request.schema_eq]
  obtain ⟨sch, hc, hmem, hdata⟩ := flushFunc_call_rows env _ order hsome c hc
  obtain ⟨r, hr, hrs⟩ := List.mem_map.1 hmem
  obtain ⟨e, -, rfl⟩ := List.mem_map.1 hr
  have hsch : e.request.schema = sch := Option.some.inj (e.request.schema_eq.symm.trans hrs)
  refine ⟨sch, hc, hsch ▸ e.request.schemaValid, ?_⟩
  rw [hdata]
  exact List.ne_nil_of_mem (List.mem_map_of_mem _ (List.mem_filter.2 ⟨hr, by simp [hrs]⟩))

/-- One request submitted and accepted, then received and flushed at `FlushSize = 1`. -/
def oneFlushTrace : List Action :=
  [.submit none (some usersRequest), .step 0, .step 0, .step 0, .step 0, .receive]

theorem flushed_batches_valid_users :
    Reachable unitConfig (replay unitConfig oneFlushTrace) ∧
      [Entry.mk 0 usersValid] ∈ (replay unitConfig oneFlushTrace).flushed ∧
      ((∀ e ∈ [Entry.mk 0 usersValid], (replay unitConfig oneFlushTrace).accepted e.id = true ∧
        ∃ sub, (replay unitConfig oneFlushTrace).submitters[e.id]? = some sub ∧
          validateRequest sub.request = .ok e.request) ∧
      ∀ c ∈ (flushFunc quietEnv (batchData [Entry.mk 0 usersValid]) ⟨_, List.Perm.refl _⟩).calls,
        ∃ sch, c.schema = some sch ∧ SchemaValid sch ∧ c.data ≠ []) :=
  have hs := replay_reachable unitConfig oneFlushTrace rfl
  have hb : [Entry.mk 0 usersValid] ∈ (replay unitConfig oneFlushTrace).flushed := by
    rw [show (replay unitConfig oneFlushTrace).flushed = [[Entry.mk 0 usersValid]] from rfl]
    exact List.mem_singleton_self _
  ⟨hs, hb, flushed_batches_valid hs hb quietEnv ⟨_, List.Perm.refl _⟩⟩

/-- A Submit call that returned nil stays returned. -/
theorem Transition.accepted_mono {cfg : PipelineConfig} {s s' : Engine} (h : Transition cfg s s')
    {i : Nat} (hi : s.accepted i = true) : s'.accepted i = true := by
  cases h with
  | submit sub hpc => rwa [Engine.accepted_append (by simp [Submitter.accepted, hpc])]
  | cancelSubmit hsub _ =>
    rw [Engine.accepted_set_of_eq hsub]
    exacts [hi, rfl]
  | cancelLifecycle | latch => exact hi
  | advance hsub hadv =>
    rw [Engine.setPc, Engine.accepted_set_of_eq hsub]
    exacts [hi, hadv.not_accepted.2.trans hadv.not_accepted.1.symm]
  | enqueue hsub _ =>
    rw [Engine.accepted_set hsub rfl]
    split
    · rfl
    · exact hi
  | receive _ _ | drain _ _ => split <;> exact hi
  | tick _ => exact hi

/-- The step that stops the loop is the drain, which flushes everything held. -/
theorem Transition.flushes_all_on_stop {cfg : PipelineConfig} {s s' : Engine}
    (h : Transition cfg s s') (hrun : s.running = true) (hstop : s'.running = false) :
    s'.flushedIds.Perm s.poolIds := by
  cases h with
  | drain =>
    rw [Engine.flushedIds_eq_poolIds rfl rfl]
    exact (pool_drain s).map Entry.id
  | receive _ _ => split at hstop <;> simp_all [Engine.flush]
  | _ => simp_all [Engine.setPc, Engine.flush]

/-- A request accepted while the flush loop runs is handed to the flush function exactly
once by the time the loop has stopped. -/
theorem accepted_while_running_flushed_once {cfg : PipelineConfig} {s s' : Engine}
    (hs : Reachable cfg s) (hrun : s.running = true) {i : Nat} (hacc : s.accepted i = true)
    (hss : Relation.ReflTransGen (Next cfg) s s') (hstop : s'.running = false) :
    s'.flushedIds.count i = 1 := by
  have key : ∀ t, Relation.ReflTransGen (Next cfg) s t →
      t.accepted i = true ∧ (t.running = false → i ∈ t.flushedIds) := by
    intro t ht
    induction ht with
    | refl => exact ⟨hacc, by simp [hrun]⟩
    | @tail t t' hst hstep ih =>
      obtain ⟨a, ha⟩ := hstep
      have htr := step_transition ha
      refine ⟨htr.accepted_mono ih.1, fun hstop' => ?_⟩
      cases hr : t.running
      · rw [Engine.flushedIds, (htr.stopped hr).2]
        exact ih.2 hr
      · exact (htr.flushes_all_on_stop hr hstop').symm.subset
          (((reachable_poolInv (hs.trans hst)).mem_iff i).2 ih.1)
  exact List.count_eq_one_of_mem (reachable_poolInv (hs.trans hss)).flushedIds_nodup
    ((key s' hss).2 hstop)

/-- One request accepted while the loop runs, then the lifecycle context is cancelled
and the loop drains. -/
def acceptThenDrainTrace : List Action :=
  [.submit none (some usersRequest), .step 0, .step 0, .step 0, .step 0]

/-- The same run after the lifecycle context is cancelled and the loop drains. -/
def drainedTrace : List Action :=
  acceptThenDrainTrace ++ [.cancelLifecycle .canceled, .drain]

theorem accepted_while_running_flushed_once_users :
    Reachable unitConfig (replay unitConfig acceptThenDrainTrace) ∧
      (replay unitConfig acceptThenDrainTrace).running = true ∧
      (replay unitConfig acceptThenDrainTrace).accepted 0 = true ∧
      Relation.ReflTransGen (Next unitConfig) (replay unitConfig acceptThenDrainTrace)
        (replay unitConfig drainedTrace) ∧
      (replay unitConfig drainedTrace).running = false ∧
      (replay unitConfig drainedTrace).flushedIds.count 0 = 1 :=
  have hs := replay_reachable unitConfig acceptThenDrainTrace rfl
  have hss : Relation.ReflTransGen (Next unitConfig) (replay unitConfig acceptThenDrainTrace)
      (replay unitConfig drainedTrace) :=
    run_steps unitConfig [.cancelLifecycle .canceled, .drain] rfl
  ⟨hs, rfl, rfl, hss, rfl, accepted_while_running_flushed_once hs rfl rfl hss rfl⟩

/-- The lifecycle context is cancelled and the loop drains an empty channel and stops.
A Submit on a live context then passes its `closed` check before the latch goroutine
has run, and its send finds room in the channel. -/
def lateSubmitTrace : List Action :=
  [.cancelLifecycle .canceled, .drain, .submit none (some usersRequest),
    .step 0, .step 0, .step 0, .step 0, .latch]

/-- An accepted request that no continuation of the run ever hands to the flush
function. -/
theorem accepted_request_never_flushed :
    ∃ s, Reachable unitConfig s ∧ s.accepted 0 = true ∧
      ∀ s', Relation.ReflTransGen (Next unitConfig) s s' → 0 ∉ s'.flushedIds := by
  refine ⟨replay unitConfig lateSubmitTrace, replay_reachable _ _ rfl, rfl, fun s' hss => ?_⟩
  rw [Engine.flushedIds, (flushed_stable_of_stopped hss rfl).2]
  decide

end BatchFlow
