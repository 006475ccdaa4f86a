import Mathlib.Data.List.Induction
import DemoApp.Support.LiveMap
import DemoApp.Support.Script

/-!
# Observer — Calls

`evaluators/callsEvaluator.ts`: the durations of the calls that ended, and a summary of each call
that was seen in the storage, kept until the call ends and reported then.

* The contexts are processed one after another.  Of a context stand the calls that ended since the
  last one and the entries of `callStorage`, in the order of the loops over them.
* `summarised`: if no call is stored when it is listed as ended or after that, each ended call that
  was stored before is reported once, with the largest number of its participants, and the summaries
  kept are those of the calls that were stored and have not ended.
-/

namespace DemoApp.Observer

abbrev CallId := String

/-- An entry of `callStorage`. -/
structure Call where
  clientIds : List String

/-- An entry of `endedCalls`, with its times in milliseconds. -/
structure EndedCall where
  serviceId : Option String := none
  roomId : String
  callId : Option CallId
  started : Int
  ended : Int

/-- What the evaluators of calls read of their context. -/
structure EvaluatorContext where
  endedCalls : List EndedCall
  callStorage : List (CallId × Call)

structure CallSummary where
  maxParticipants : Nat

/-- `JSON.stringify(callSummary)`. -/
def CallSummary.text (callSummary : CallSummary) : String :=
  "\x7b\"maxParticipants\":" ++ toString callSummary.maxParticipants ++ "\x7d"

structure CallEventReport where
  serviceId : String
  name : String
  timestamp : Int
  callId : CallId
  roomId : String
  attachments : String

/-- What `createCallsEvaluator` closes over, with the observations that the histogram was given and
the reports that were added. -/
structure CallsEvaluator where
  callDurations : List Rat := []
  callSummaries : LiveMap CallId CallSummary := .empty
  reports : List CallEventReport := []

namespace CallsEvaluator

/-- The duration in minutes. -/
def elapsedTimeInMins (endedCall : EndedCall) : Rat :=
  (endedCall.ended - endedCall.started : Int) / (60 * 1000 : Rat)

/-- The body of the first loop. -/
def observe (s : CallsEvaluator) (endedCall : EndedCall) : CallsEvaluator :=
  { s with callDurations := s.callDurations ++ [elapsedTimeInMins endedCall] }

/-- The report of a call.  `now n` is what `Date.now()` returns for the report number `n`. -/
def callSummaryReport (now : Nat → Int) (s : CallsEvaluator) (endedCall : EndedCall)
    (callId : CallId) (callSummary : CallSummary) : CallEventReport where
  serviceId := endedCall.serviceId.getD "myServiceId"
  name := "CALL_SUMMARY_REPORT"
  timestamp := now s.reports.length
  callId := callId
  roomId := endedCall.roomId
  attachments := callSummary.text

/-- The body of the second loop. -/
def report (now : Nat → Int) (s : CallsEvaluator) (endedCall : EndedCall) : CallsEvaluator :=
  match truthy endedCall.callId with
  | none        => s
  | some callId =>
      match s.callSummaries.get callId with
      | none             => s
      | some callSummary =>
          { s with
            reports := s.reports ++ [callSummaryReport now s endedCall callId callSummary]
            callSummaries := s.callSummaries.delete callId }

/-- The body of the third loop. -/
def update (s : CallsEvaluator) (entry : CallId × Call) : CallsEvaluator :=
  let callSummary := s.callSummaries.get entry.1
  { s with
    callSummaries := s.callSummaries.set entry.1
      ⟨max ((callSummary.map CallSummary.maxParticipants).getD 0) entry.2.clientIds.length⟩ }

/-- The evaluator. -/
def evaluate (now : Nat → Int) (s : CallsEvaluator) (context : EvaluatorContext) :
    CallsEvaluator :=
  let s₁ := context.endedCalls.foldl observe s
  let s₂ := context.endedCalls.foldl (report now) s₁
  context.callStorage.foldl update s₂

/-- The contexts are processed one after another. -/
def run (now : Nat → Int) (contexts : List EvaluatorContext) : CallsEvaluator :=
  contexts.foldl (evaluate now) {}

/-- The reports of a call. -/
def reportsOf (s : CallsEvaluator) (id : CallId) : List CallEventReport :=
  s.reports.filter fun r => r.callId = id

end CallsEvaluator

/-- The context lists the call as ended. -/
def EvaluatorContext.Ends (context : EvaluatorContext) (id : CallId) : Prop :=
  ∃ e ∈ context.endedCalls, truthy e.callId = some id

/-- The numbers of participants that a call is stored with. -/
def EvaluatorContext.sizes (context : EvaluatorContext) (id : CallId) : List Nat :=
  (context.callStorage.filter fun entry => entry.1 = id).map fun entry => entry.2.clientIds.length

instance (context : EvaluatorContext) (id : CallId) : Decidable (context.Ends id) :=
  inferInstanceAs (Decidable (∃ e ∈ context.endedCalls, truthy e.callId = some id))

/-- The numbers of participants that a call was stored with, over all the contexts. -/
def sizes (contexts : List EvaluatorContext) (id : CallId) : List Nat :=
  contexts.flatMap fun context => context.sizes id

/-- Some context listed the call as ended. -/
def Ended (contexts : List EvaluatorContext) (id : CallId) : Prop :=
  ∃ context ∈ contexts, context.Ends id

instance (contexts : List EvaluatorContext) (id : CallId) : Decidable (Ended contexts id) :=
  inferInstanceAs (Decidable (∃ context ∈ contexts, context.Ends id))

/-- A call that is listed as ended is not stored then, nor later. -/
def Settled (contexts : List EvaluatorContext) : Prop :=
  ∀ before context after, contexts = before ++ context :: after →
    ∀ id, context.Ends id → sizes (context :: after) id = []

/-- The report is a summary of the ended call. -/
structure EndedCall.ReportedBy (e : EndedCall) (r : CallEventReport) : Prop where
  name : r.name = "CALL_SUMMARY_REPORT"
  callId : truthy e.callId = some r.callId
  serviceId : r.serviceId = e.serviceId.getD "myServiceId"
  roomId : r.roomId = e.roomId

/-- What the evaluator did with the contexts. -/
structure Summarised (contexts : List EvaluatorContext) (s : CallsEvaluator) : Prop where
  summaries : ∀ r ∈ s.reports, ∃ context ∈ contexts, ∃ e ∈ context.endedCalls, e.ReportedBy r
  /-- a call that was stored before it ended is reported once, with its largest size -/
  reported : ∀ before context after id n, contexts = before ++ context :: after →
    context.Ends id → (sizes before id).max? = some n →
      ∃ r, s.reportsOf id = [r] ∧ r.attachments = CallSummary.text ⟨n⟩
  /-- no other call is reported -/
  silent : ∀ id, ¬Ended contexts id ∨ sizes contexts id = [] → s.reportsOf id = []
  durations : s.callDurations =
    contexts.flatMap fun context => context.endedCalls.map CallsEvaluator.elapsedTimeInMins
  retained : ∀ id n, s.callSummaries.get id = some ⟨n⟩ ↔
    (sizes contexts id).max? = some n ∧ ¬Ended contexts id

/-! ### Largest sizes -/

/-- A summary after more sizes, if there is one or there are any. -/
def grow (summary : Option Nat) (ns : List Nat) : Option Nat :=
  ns.foldl (fun summary n => some (max (summary.getD 0) n)) summary

theorem grow_append (summary : Option Nat) (ns ms : List Nat) :
    grow summary (ns ++ ms) = grow (grow summary ns) ms :=
  List.foldl_append

theorem grow_some (m : Nat) (ns : List Nat) : grow (some m) ns = some (ns.foldl max m) := by
  induction ns generalizing m with
  | nil => rfl
  | cons n ns ih => exact ih (max m n)

theorem grow_none (ns : List Nat) : grow none ns = ns.max? := by
  cases ns with
  | nil => rfl
  | cons n ns =>
      rw [List.max?_cons']
      refine (grow_some (max 0 n) ns).trans ?_
      rw [Nat.zero_max]

namespace CallsEvaluator

variable {now : Nat → Int} {s : CallsEvaluator} {id : CallId}

/-- The size that the summary of a call holds. -/
def size (s : CallsEvaluator) (id : CallId) : Option Nat :=
  (s.callSummaries.get id).map CallSummary.maxParticipants

/-- What the reports of a call say. -/
def said (s : CallsEvaluator) (id : CallId) : List String :=
  (s.reportsOf id).map CallEventReport.attachments

/-- What is said of a call with a summary of this size. -/
def saying (summary : Option Nat) : List String :=
  summary.toList.map fun n => CallSummary.text ⟨n⟩

/-! ### The loops -/

theorem foldl_observe (endedCalls : List EndedCall) (s : CallsEvaluator) :
    endedCalls.foldl observe s =
      { s with callDurations := s.callDurations ++ endedCalls.map elapsedTimeInMins } := by
  induction endedCalls generalizing s with
  | nil => simp
  | cons e l ih => simp [ih, observe]

theorem size_report (e : EndedCall) :
    (report now s e).size id = if truthy e.callId = some id then none else s.size id := by
  unfold report size
  cases he : truthy e.callId with
  | none => simp
  | some callId =>
      dsimp only
      by_cases h : callId = id
      · subst h
        cases hg : s.callSummaries.get callId <;> simp [hg]
      · cases hg : s.callSummaries.get callId <;> simp [h, Ne.symm h, LiveMap.get_delete]

theorem said_report (e : EndedCall) :
    (report now s e).said id =
      s.said id ++ if truthy e.callId = some id then saying (s.size id) else [] := by
  unfold report size said reportsOf
  cases he : truthy e.callId with
  | none => simp
  | some callId =>
      dsimp only
      by_cases h : callId = id
      · subst h
        cases s.callSummaries.get callId <;> simp [saying, callSummaryReport]
      · cases hg : s.callSummaries.get callId <;> simp [h, callSummaryReport]

/-- The second loop forgets the calls that ended. -/
theorem size_foldl_report (endedCalls : List EndedCall) (s : CallsEvaluator) :
    (endedCalls.foldl (report now) s).size id =
      if ∃ e ∈ endedCalls, truthy e.callId = some id then none else s.size id := by
  induction endedCalls generalizing s with
  | nil => simp
  | cons e l ih =>
      rw [List.foldl_cons, ih, size_report]
      by_cases h : truthy e.callId = some id <;> simp [h]

/-- The second loop reports a call once, however often it is listed. -/
theorem said_foldl_report (endedCalls : List EndedCall) (s : CallsEvaluator) :
    (endedCalls.foldl (report now) s).said id =
      s.said id ++
        if ∃ e ∈ endedCalls, truthy e.callId = some id then saying (s.size id) else [] := by
  induction endedCalls generalizing s with
  | nil => simp
  | cons e l ih =>
      rw [List.foldl_cons, ih, said_report, size_report]
      by_cases h : truthy e.callId = some id <;> simp [h, saying]

theorem size_update (entry : CallId × Call) :
    (update s entry).size id =
      if entry.1 = id then some (max ((s.size id).getD 0) entry.2.clientIds.length)
      else s.size id := by
  unfold update size
  rw [LiveMap.get_set]
  by_cases h : entry.1 = id
  · subst h
    simp
  · simp [h, Ne.symm h]

/-- The third loop takes in the sizes of a call. -/
theorem size_foldl_update (callStorage : List (CallId × Call)) (s : CallsEvaluator) :
    (callStorage.foldl update s).size id =
      grow (s.size id)
        ((callStorage.filter fun entry => entry.1 = id).map fun entry =>
          entry.2.clientIds.length) := by
  induction callStorage generalizing s with
  | nil => rfl
  | cons entry l ih =>
      rw [List.foldl_cons, ih, size_update]
      by_cases h : entry.1 = id <;> simp [h, grow]

theorem foldl_update_reports (callStorage : List (CallId × Call)) (s : CallsEvaluator) :
    (callStorage.foldl update s).reports = s.reports ∧
      (callStorage.foldl update s).callDurations = s.callDurations := by
  induction callStorage generalizing s with
  | nil => exact ⟨rfl, rfl⟩
  | cons entry l ih => exact ih (update s entry)

/-! ### One context -/

/-- A call that ends is forgotten, and its sizes are taken in. -/
theorem size_evaluate (s : CallsEvaluator) (context : EvaluatorContext) :
    (evaluate now s context).size id =
      grow (if context.Ends id then none else s.size id) (context.sizes id) := by
  refine (size_foldl_update _ _).trans (congrArg (grow · _) ?_)
  rw [size_foldl_report, foldl_observe]
  rfl

/-- A call that ends is reported, if it has a summary. -/
theorem said_evaluate (s : CallsEvaluator) (context : EvaluatorContext) :
    (evaluate now s context).said id =
      s.said id ++ if context.Ends id then saying (s.size id) else [] := by
  have hreports := (foldl_update_reports context.callStorage
    (context.endedCalls.foldl (report now) (context.endedCalls.foldl observe s))).1
  rw [said, reportsOf, evaluate, hreports]
  refine (said_foldl_report _ _).trans ?_
  rw [foldl_observe]
  rfl

theorem foldl_report_durations (endedCalls : List EndedCall) (s : CallsEvaluator) :
    (endedCalls.foldl (report now) s).callDurations = s.callDurations := by
  induction endedCalls generalizing s with
  | nil => rfl
  | cons e l ih =>
      rw [List.foldl_cons, ih]
      rw [report]
      split
      · rfl
      · split <;> rfl

theorem durations_evaluate (s : CallsEvaluator) (context : EvaluatorContext) :
    (evaluate now s context).callDurations =
      s.callDurations ++ context.endedCalls.map elapsedTimeInMins := by
  rw [evaluate, (foldl_update_reports _ _).2, foldl_report_durations, foldl_observe]

theorem mem_report {r : CallEventReport} {e : EndedCall} (h : r ∈ (report now s e).reports) :
    r ∈ s.reports ∨ e.ReportedBy r := by
  rw [report] at h
  cases he : truthy e.callId with
  | none => exact .inl (by simpa [he] using h)
  | some callId =>
      rw [he] at h
      cases hg : s.callSummaries.get callId with
      | none => exact .inl (by simpa [hg] using h)
      | some callSummary =>
          simp only [hg] at h
          refine (List.mem_append.mp h).imp_right fun hr => ?_
          rw [List.mem_singleton.mp hr]
          exact ⟨rfl, he, rfl, rfl⟩

theorem mem_foldl_report {r : CallEventReport} {endedCalls : List EndedCall}
    (h : r ∈ (endedCalls.foldl (report now) s).reports) :
    r ∈ s.reports ∨ ∃ e ∈ endedCalls, e.ReportedBy r := by
  induction endedCalls generalizing s with
  | nil => exact .inl h
  | cons e l ih =>
      rcases ih h with hr | ⟨e', he', hr⟩
      · exact (mem_report hr).imp_right fun hr => ⟨e, List.mem_cons_self, hr⟩
      · exact .inr ⟨e', List.mem_cons_of_mem e he', hr⟩

theorem mem_evaluate {r : CallEventReport} {context : EvaluatorContext}
    (h : r ∈ (evaluate now s context).reports) :
    r ∈ s.reports ∨ ∃ e ∈ context.endedCalls, e.ReportedBy r := by
  rw [evaluate, (foldl_update_reports _ _).1, foldl_observe] at h
  have hr := mem_foldl_report h
  exact hr

/-! ### Runs -/

theorem run_concat (now : Nat → Int) (contexts : List EvaluatorContext)
    (context : EvaluatorContext) :
    run now (contexts ++ [context]) = evaluate now (run now contexts) context := by
  simp [run]

end CallsEvaluator

theorem sizes_append (contexts contexts' : List EvaluatorContext) (id : CallId) :
    sizes (contexts ++ contexts') id = sizes contexts id ++ sizes contexts' id :=
  List.flatMap_append

theorem sizes_concat (contexts : List EvaluatorContext) (context : EvaluatorContext)
    (id : CallId) :
    sizes (contexts ++ [context]) id = sizes contexts id ++ context.sizes id := by
  simp [sizes]

theorem ended_concat {contexts : List EvaluatorContext} {context : EvaluatorContext}
    {id : CallId} :
    Ended (contexts ++ [context]) id ↔ Ended contexts id ∨ context.Ends id := by
  simp [Ended, or_and_right, exists_or]

theorem Ended.split {contexts : List EvaluatorContext} {id : CallId} (h : Ended contexts id) :
    ∃ before context after, contexts = before ++ context :: after ∧ context.Ends id := by
  obtain ⟨context, hmem, he⟩ := h
  obtain ⟨before, after, e⟩ := List.append_of_mem hmem
  exact ⟨before, context, after, e, he⟩

theorem Settled.init {contexts : List EvaluatorContext} {context : EvaluatorContext}
    (h : Settled (contexts ++ [context])) : Settled contexts := by
  rintro before c after rfl id he
  have hall := h before c (after ++ [context]) (by simp) id he
  rw [← List.cons_append, sizes_append] at hall
  exact (List.append_eq_nil_iff.mp hall).1

/-- A call that has ended is not stored in the last context. -/
theorem Settled.last {contexts : List EvaluatorContext} {context : EvaluatorContext}
    (h : Settled (contexts ++ [context])) {id : CallId}
    (he : Ended contexts id ∨ context.Ends id) : context.sizes id = [] := by
  rcases he with he | he
  · obtain ⟨before, c, after, rfl, hends⟩ := he.split
    have hall := h before c (after ++ [context]) (by simp) id hends
    rw [← List.cons_append, sizes_concat] at hall
    exact (List.append_eq_nil_iff.mp hall).2
  · have hall := h contexts context [] rfl id he
    simpa [sizes] using hall

namespace CallsEvaluator

variable {now : Nat → Int} {contexts : List EvaluatorContext}

/-- The summaries of a run. -/
theorem size_run (now : Nat → Int) (h : Settled contexts) (id : CallId) :
    (run now contexts).size id =
      if Ended contexts id then none else grow none (sizes contexts id) := by
  induction contexts using List.reverseRecOn with
  | nil => rfl
  | append_singleton contexts context ih =>
      rw [run_concat, size_evaluate, ih h.init]
      by_cases he : Ended contexts id ∨ context.Ends id
      · rw [h.last he, if_pos (ended_concat.mpr he)]
        rcases he with he | he <;> simp [he, grow]
      · obtain ⟨hold, hnew⟩ := not_or.mp he
        rw [if_neg hnew, if_neg hold, if_neg (mt ended_concat.mp he), sizes_concat, grow_append]

/-- The reports of a run. -/
theorem said_run (now : Nat → Int) (h : Settled contexts) (id : CallId) :
    (run now contexts).said id =
      if Ended contexts id then saying (grow none (sizes contexts id)) else [] := by
  induction contexts using List.reverseRecOn with
  | nil => rfl
  | append_singleton contexts context ih =>
      rw [run_concat, said_evaluate, ih h.init, size_run now h.init]
      by_cases he : Ended contexts id ∨ context.Ends id
      · rw [if_pos (ended_concat.mpr he), sizes_concat, h.last he, List.append_nil]
        by_cases hold : Ended contexts id
        · -- it was reported, and has no summary any more
          simp [hold, saying]
        · simp [hold, he.resolve_left hold]
      · obtain ⟨hold, hnew⟩ := not_or.mp he
        rw [if_neg hnew, if_neg hold, if_neg (mt ended_concat.mp he), List.append_nil]

theorem durations_run (now : Nat → Int) (contexts : List EvaluatorContext) :
    (run now contexts).callDurations =
      contexts.flatMap fun context => context.endedCalls.map elapsedTimeInMins := by
  induction contexts using List.reverseRecOn with
  | nil => rfl
  | append_singleton contexts context ih =>
      rw [run_concat, durations_evaluate, ih, List.flatMap_append]
      simp

theorem mem_run {r : CallEventReport} (h : r ∈ (run now contexts).reports) :
    ∃ context ∈ contexts, ∃ e ∈ context.endedCalls, e.ReportedBy r := by
  induction contexts using List.reverseRecOn with
  | nil => cases h
  | append_singleton contexts context ih =>
      rw [run_concat] at h
      rcases mem_evaluate h with hr | hr
      · obtain ⟨c, hc, he⟩ := ih hr
        exact ⟨c, List.mem_append_left _ hc, he⟩
      · exact ⟨context, List.mem_append_right _ List.mem_cons_self, hr⟩

/-- **Call summaries**, after every sequence of contexts. -/
theorem summarised (now : Nat → Int) (h : Settled contexts) :
    Summarised contexts (run now contexts) := by
  refine ⟨fun r hr => mem_run hr, ?_, fun id hid => ?_, durations_run now contexts,
    fun id n => ?_⟩
  · rintro before context after id n rfl he hn
    have hended : Ended (before ++ context :: after) id :=
      ⟨context, List.mem_append_right _ List.mem_cons_self, he⟩
    -- nothing is stored any more
    have hsizes : grow none (sizes (before ++ context :: after) id) = some n := by
      rw [sizes_append, h before context after rfl id he, List.append_nil, grow_none, hn]
    have hsaid := said_run now h id
    rw [if_pos hended, hsizes] at hsaid
    obtain ⟨r, hr, htext⟩ := List.map_eq_singleton_iff.mp hsaid
    exact ⟨r, hr, htext⟩
  · have hsaid := said_run now h id
    have hnil : (run now contexts).said id = [] := by
      rw [hsaid]
      rcases hid with hid | hid
      · rw [if_neg hid]
      · rw [hid]
        split <;> rfl
    exact List.map_eq_nil_iff.mp hnil
  · have hget : (run now contexts).callSummaries.get id = some ⟨n⟩ ↔
        (run now contexts).size id = some n := by
      rw [size, Option.map_eq_some_iff]
      constructor
      · intro hg
        exact ⟨⟨n⟩, hg, rfl⟩
      · rintro ⟨⟨m⟩, hg, rfl⟩
        exact hg
    rw [hget, size_run now h, grow_none]
    split
    · next he => exact iff_of_false (fun hn => by cases hn) fun hn => hn.2 he
    · next he => exact (and_iff_left he).symm

end CallsEvaluator

theorem settled_nil : Settled [] := by
  rintro before context after h
  simp at h

theorem Settled.cons {contexts : List EvaluatorContext} {context : EvaluatorContext}
    (h : Settled contexts) (hc : ∀ id, context.Ends id → sizes (context :: contexts) id = []) :
    Settled (context :: contexts) := by
  rintro before c after e id he
  cases before with
  | nil =>
      obtain ⟨rfl, rfl⟩ := List.cons.inj e
      exact hc id he
  | cons c' before => exact h before c after (List.cons.inj e).2 id he

namespace CallsEvaluator

/-- A call grows and ends, is listed as ended again, next to one that nobody saw; another goes
on. -/
def calls : List EvaluatorContext :=
  [⟨[], [("call-1", ⟨["a", "b"]⟩)]⟩,
    ⟨[], [("call-1", ⟨["a", "b", "c"]⟩), ("call-2", ⟨["d"]⟩)]⟩,
    ⟨[⟨none, "lobby", some "call-1", 0, 60000⟩, ⟨none, "lobby", some "call-1", 0, 60000⟩],
      [("call-2", ⟨[]⟩)]⟩,
    ⟨[⟨none, "lobby", some "call-1", 0, 60000⟩, ⟨none, "hall", some "call-3", 0, 1⟩,
      ⟨none, "hall", none, 0, 1⟩], []⟩]

theorem summarised_calls :
    Summarised calls (run (fun n => n) calls) ∧
      (run (fun n => n) calls).reports.map CallEventReport.attachments =
        ["\x7b\"maxParticipants\":3\x7d"] ∧
      (run (fun n => n) calls).callSummaries.values = [⟨1⟩] := by
  have hsettled : Settled calls := by
    refine .cons (.cons (.cons (.cons settled_nil ?_) ?_) ?_) ?_
    · intro id _
      rfl
    · rintro id ⟨e, he, hid⟩
      obtain rfl : e = ⟨none, "lobby", some "call-1", 0, 60000⟩ := by simpa using he
      obtain rfl : "call-1" = id := Option.some.inj hid
      rfl
    · rintro id ⟨e, he, -⟩
      cases he
    · rintro id ⟨e, he, -⟩
      cases he
  exact ⟨summarised _ hsettled, rfl, rfl⟩

end CallsEvaluator

end DemoApp.Observer
