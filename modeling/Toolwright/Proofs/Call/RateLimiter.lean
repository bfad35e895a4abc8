import Mathlib.Data.List.TakeWhile
import Toolwright.Call.RateLimiter
import Toolwright.Proofs.Json.Members

/-!
# The sliding window

A limiter forgets: with every call it drops what the window has left behind from the front of what it
remembers for the caller, and nothing else. It answers all the same as one that keeps a log of
every call it ever allowed and counts those of the caller that the window still covers
(`judged`, `Remembers.answers_eq`), as long as the clock does not run backwards.

The invariant is `Remembers`: for every caller, what is remembered is the log without some calls at
its front, and these are a whole window ago, and will be. So what is dropped is just what does not
count (`Remembers.recent_eq`). One call keeps the invariant (`Remembers.check`), and so does a run
(`Remembers.after`). From the log it is plain that calls which are not allowed, and those of other
callers, make no difference.
-/

namespace Toolwright

namespace RateLimiter

/-- A request as a limiter sees it. -/
structure Call where
  caller : String
  time : Nat
  deriving DecidableEq, Repr

/-- The limiter after some calls. -/
def after (limiter : RateLimiter) (calls : List Call) : RateLimiter :=
  calls.foldl (fun limiter call => (limiter.check call.caller call.time).2) limiter

/-- Whether each of some calls is allowed. -/
def answers (limiter : RateLimiter) : List Call → List Bool
  | [] => []
  | call :: rest =>
    (limiter.check call.caller call.time).1 ::
      (limiter.check call.caller call.time).2.answers rest

/-- Those of some calls that are allowed. -/
def allowed (limiter : RateLimiter) (calls : List Call) : List Call :=
  ((calls.zip (limiter.answers calls)).filter Prod.snd).map Prod.fst

/-- What a call adds to a log of the calls that were allowed. -/
def entry (isAllowed : Bool) (call : Call) : List Call :=
  if isAllowed then [call] else []

/-- How many of some calls a caller made within the window that ends at a time. -/
def load (window : Nat) (log : List Call) (caller : String) (now : Nat) : Nat :=
  log.countP fun call => call.caller = caller ∧ now - call.time < window

/-- The answers to some calls after a log of calls that were allowed, with nothing forgotten: a call is
allowed as long as the load is below the limit. -/
def judged (maxRequests window : Nat) (log : List Call) : List Call → List Bool
  | [] => []
  | call :: rest =>
    let isAllowed : Bool := load window log call.caller call.time < maxRequests
    isAllowed :: judged maxRequests window (log ++ entry isAllowed call) rest

/-- The times at which a caller made some calls. -/
def timesOf (log : List Call) (caller : String) : List Nat :=
  (log.filter fun call => call.caller = caller).map Call.time

/-! ### One call -/

section

variable {limiter : RateLimiter} {caller other : String} {now : Nat}

@[simp] theorem maxRequests_check :
    (limiter.check caller now).2.maxRequests = limiter.maxRequests := rfl

@[simp] theorem window_check : (limiter.check caller now).2.window = limiter.window := rfl

theorem allowed_check : (limiter.check caller now).1 =
    decide ((limiter.recent now (limiter.history caller)).length < limiter.maxRequests) := rfl

theorem history_check_self : (limiter.check caller now).2.history caller =
    limiter.recent now (limiter.history caller) ++
      (entry (limiter.check caller now).1 ⟨caller, now⟩).map Call.time := by
  rw [allowed_check, entry]
  by_cases hload : (limiter.recent now (limiter.history caller)).length < limiter.maxRequests
  · rw [if_pos (decide_eq_true hload), history, check, Members.get?_insert_self, if_pos hload]
    rfl
  · rw [if_neg (by simpa using hload), history, check, Members.get?_insert_self, if_neg hload]
    exact (List.append_nil _).symm

theorem history_check_of_ne (h : other ≠ caller) :
    (limiter.check caller now).2.history other = limiter.history other := by
  simp only [check, history, Members.get?_insert_of_ne h]

/-- From times in order, dropping at the front what is a whole window ago leaves just what is not. -/
theorem recent_eq_filter {times : List Nat} (h : times.Pairwise (· ≤ ·)) :
    limiter.recent now times = times.filter fun time => now - time < limiter.window := by
  induction times with
  | nil => rfl
  | cons first rest ih =>
    obtain ⟨hfirst, hrest⟩ := List.pairwise_cons.mp h
    by_cases hold : limiter.window ≤ now - first
    · rw [recent, List.dropWhile_cons_of_pos (by simpa using hold),
        List.filter_cons_of_neg (by simpa using hold)]
      exact ih hrest
    · rw [recent, List.dropWhile_cons_of_neg (by simpa using hold), List.filter_eq_self.mpr]
      intro time hmem
      -- whatever comes after a time within the window is within it too
      have hle : first ≤ time := by
        rcases List.mem_cons.mp hmem with rfl | hmem
        · exact Nat.le_refl _
        · exact hfirst time hmem
      simp only [decide_eq_true_eq]
      omega

end

/-! ### Logs -/

section

variable {caller : String} {call : Call}

theorem timesOf_append (log more : List Call) (caller : String) :
    timesOf (log ++ more) caller = timesOf log caller ++ timesOf more caller := by
  rw [timesOf, List.filter_append, List.map_append, timesOf, timesOf]

theorem timesOf_entry_self (isAllowed : Bool) (call : Call) :
    timesOf (entry isAllowed call) call.caller = (entry isAllowed call).map Call.time := by
  unfold entry
  split <;> simp [timesOf]

/-- A call is of no account for another caller. -/
theorem timesOf_entry_of_ne (isAllowed : Bool) (h : call.caller ≠ caller) :
    timesOf (entry isAllowed call) caller = [] := by
  unfold entry
  split <;> simp [timesOf, h]

theorem mem_entry {isAllowed : Bool} {other : Call} (h : other ∈ entry isAllowed call) :
    other = call := by
  unfold entry at h
  split at h <;> simp_all

theorem load_append (window : Nat) (log more : List Call) (caller : String) (now : Nat) :
    load window (log ++ more) caller now = load window log caller now + load window more caller now :=
  List.countP_append

theorem load_eq_length (window : Nat) (log : List Call) (caller : String) (now : Nat) :
    load window log caller now =
      ((timesOf log caller).filter fun time => now - time < window).length := by
  rw [load, timesOf, List.filter_map, List.length_map, List.filter_filter, List.countP_eq_length_filter]
  congr 1
  refine List.filter_congr fun call _ => ?_
  rw [Bool.decide_and, Bool.and_comm]
  rfl

theorem load_entry_of_ne {window now : Nat} (isAllowed : Bool) (h : call.caller ≠ caller) :
    load window (entry isAllowed call) caller now = 0 := by
  rw [load_eq_length, timesOf_entry_of_ne isAllowed h]
  rfl

end

/-! ### What is remembered -/

/-- What a limiter remembers of a log of the calls that it allowed, now. -/
structure Remembers (limiter : RateLimiter) (log : List Call) (now : Nat) : Prop where
  ordered : log.Pairwise fun a b => a.time ≤ b.time
  past : ∀ call ∈ log, call.time ≤ now
  /-- Only calls at the front have been forgotten, and these are a whole window ago. -/
  kept : ∀ caller, ∃ forgotten, timesOf log caller = forgotten ++ limiter.history caller ∧
    ∀ time ∈ forgotten, limiter.window ≤ now - time
  bounded : ∀ caller, (limiter.history caller).length ≤ limiter.maxRequests
  /-- In no window has a caller made more calls than the limit. -/
  spaced : ∀ caller start,
    (log.countP fun call => call.caller = caller ∧ start ≤ call.time ∧
      call.time < start + limiter.window) ≤ limiter.maxRequests

namespace Remembers

variable {limiter : RateLimiter} {log : List Call} {now later : Nat}

/-- A limiter that has seen no call remembers the empty log. -/
theorem empty (maxRequests window : Nat) : Remembers { maxRequests, window } [] 0 where
  ordered := List.Pairwise.nil
  past := by simp
  kept caller := ⟨[], rfl, by simp⟩
  bounded caller := Nat.zero_le _
  spaced caller start := Nat.zero_le _

/-- What has been forgotten stays out of the window. -/
theorem mono (h : Remembers limiter log now) (hle : now ≤ later) : Remembers limiter log later where
  ordered := h.ordered
  past call hcall := Nat.le_trans (h.past call hcall) hle
  kept caller := by
    obtain ⟨forgotten, htimes, hold⟩ := h.kept caller
    refine ⟨forgotten, htimes, fun time htime => ?_⟩
    have := hold time htime
    omega
  bounded := h.bounded
  spaced := h.spaced

theorem ordered_times (h : Remembers limiter log now) (caller : String) :
    (timesOf log caller).Pairwise (· ≤ ·) := by
  rw [timesOf, List.pairwise_map]
  exact h.ordered.filter _

/-- **What is not dropped is what counts**: the calls in the log of the same caller that the window
covers. -/
theorem recent_eq (h : Remembers limiter log now) (caller : String) :
    limiter.recent now (limiter.history caller) =
      (timesOf log caller).filter fun time => now - time < limiter.window := by
  obtain ⟨forgotten, htimes, hold⟩ := h.kept caller
  have hordered := h.ordered_times caller
  rw [htimes, List.pairwise_append] at hordered
  have hnone : (forgotten.filter fun time => now - time < limiter.window) = [] := by
    refine List.filter_eq_nil_iff.mpr fun time htime => ?_
    have := hold time htime
    simp only [decide_eq_true_eq]
    omega
  rw [recent_eq_filter hordered.2.1, htimes, List.filter_append, hnone, List.nil_append]

/-- A call is allowed as long as the load is below the limit. -/
theorem allowed_eq (h : Remembers limiter log now) (caller : String) :
    (limiter.check caller now).1 =
      decide (load limiter.window log caller now < limiter.maxRequests) := by
  rw [allowed_check, h.recent_eq, load_eq_length]

/-- Dropping forgets some more calls at the front. -/
theorem kept_recent (h : Remembers limiter log now) (caller : String) :
    ∃ forgotten, timesOf log caller =
        forgotten ++ limiter.recent now (limiter.history caller) ∧
      ∀ time ∈ forgotten, limiter.window ≤ now - time := by
  obtain ⟨forgotten, htimes, hold⟩ := h.kept caller
  let dropped := (limiter.history caller).takeWhile fun time => limiter.window ≤ now - time
  refine ⟨forgotten ++ dropped, ?_, fun time htime => ?_⟩
  · rw [List.append_assoc, recent, List.takeWhile_append_dropWhile, htimes]
  · rcases List.mem_append.mp htime with htime | htime
    · exact hold time htime
    · simpa using List.mem_takeWhile_imp htime

theorem length_recent_le (h : Remembers limiter log now) (caller : String) :
    (limiter.recent now (limiter.history caller)).length ≤ limiter.maxRequests :=
  Nat.le_trans (List.dropWhile_sublist _).length_le (h.bounded caller)

/-- A call that is logged is the latest. -/
theorem ordered_check (h : Remembers limiter log now) (caller : String) :
    (log ++ entry (limiter.check caller now).1 ⟨caller, now⟩).Pairwise
      fun a b => a.time ≤ b.time := by
  refine List.pairwise_append.mpr ⟨h.ordered, ?_, fun call hcall last hlast => ?_⟩
  · unfold entry
    split <;> simp
  · rw [mem_entry hlast]
    exact h.past call hcall

/-- Dropping and logging leave what is remembered at the end of the log. -/
theorem kept_check (h : Remembers limiter log now) (caller other : String) :
    ∃ forgotten, timesOf (log ++ entry (limiter.check caller now).1 ⟨caller, now⟩) other =
        forgotten ++ (limiter.check caller now).2.history other ∧
      ∀ time ∈ forgotten, limiter.window ≤ now - time := by
  rw [timesOf_append]
  by_cases hother : other = caller
  · obtain ⟨forgotten, htimes, hold⟩ := h.kept_recent caller
    refine ⟨forgotten, ?_, hold⟩
    rw [hother, history_check_self, ← List.append_assoc, ← htimes]
    exact congrArg _ (timesOf_entry_self _ ⟨caller, now⟩)
  · obtain ⟨forgotten, htimes, hold⟩ := h.kept other
    refine ⟨forgotten, ?_, hold⟩
    rw [history_check_of_ne hother, ← htimes, timesOf_entry_of_ne _ (Ne.symm hother),
      List.append_nil]

/-- One more time is remembered only where there is room for it. -/
theorem bounded_check (h : Remembers limiter log now) (caller other : String) :
    ((limiter.check caller now).2.history other).length ≤ limiter.maxRequests := by
  by_cases hother : other = caller
  · rw [hother, history_check_self, entry, allowed_check]
    have hle := h.length_recent_le caller
    split <;> rename_i hload
    · simpa [Nat.succ_le_iff] using hload
    · simpa using hle
  · rw [history_check_of_ne hother]
    exact h.bounded other

/-- What lies in a window that is not over yet counts now. -/
theorem countP_le_load (h : Remembers limiter log now) (caller : String) {start : Nat}
    (hend : now < start + limiter.window) :
    (log.countP fun call => call.caller = caller ∧ start ≤ call.time ∧
      call.time < start + limiter.window) ≤ load limiter.window log caller now := by
  refine List.countP_mono_left fun call hcall hin => ?_
  have := h.past call hcall
  simp only [decide_eq_true_eq] at hin ⊢
  exact ⟨hin.1, by omega⟩

/-- A call is logged only if every window that it lies in has room for it. -/
theorem spaced_check (h : Remembers limiter log now) (caller other : String) (start : Nat) :
    ((log ++ entry (limiter.check caller now).1 ⟨caller, now⟩).countP fun call =>
      call.caller = other ∧ start ≤ call.time ∧ call.time < start + limiter.window) ≤
        limiter.maxRequests := by
  rw [List.countP_append, entry, h.allowed_eq]
  split <;> rename_i hload
  · rw [decide_eq_true_eq] at hload
    rw [List.countP_singleton]
    split
    · rename_i hwithin
      obtain ⟨hcaller, -, hend⟩ := of_decide_eq_true hwithin
      dsimp only at hcaller hend
      subst hcaller
      exact Nat.le_trans (Nat.add_le_add_right (h.countP_le_load caller hend) 1) hload
    · exact h.spaced other start
  · exact h.spaced other start

/-- **A call keeps what a limiter remembers**, and is logged if it is allowed. -/
theorem check (h : Remembers limiter log now) (caller : String) :
    Remembers (limiter.check caller now).2
      (log ++ entry (limiter.check caller now).1 ⟨caller, now⟩) now where
  ordered := h.ordered_check caller
  past call hcall := by
    rcases List.mem_append.mp hcall with hcall | hcall
    · exact h.past call hcall
    · rw [mem_entry hcall]
  kept := h.kept_check caller
  bounded := h.bounded_check caller
  spaced := h.spaced_check caller

end Remembers

/-! ### Runs -/

section

variable {limiter : RateLimiter} {log calls : List Call} {call : Call} {now later : Nat}

@[simp] theorem maxRequests_after (limiter : RateLimiter) (calls : List Call) :
    (limiter.after calls).maxRequests = limiter.maxRequests := by
  induction calls generalizing limiter with
  | nil => rfl
  | cons call rest ih => exact ih _

@[simp] theorem window_after (limiter : RateLimiter) (calls : List Call) :
    (limiter.after calls).window = limiter.window := by
  induction calls generalizing limiter with
  | nil => rfl
  | cons call rest ih => exact ih _

theorem answers_append (limiter : RateLimiter) (calls more : List Call) :
    limiter.answers (calls ++ more) = limiter.answers calls ++ (limiter.after calls).answers more := by
  induction calls generalizing limiter with
  | nil => rfl
  | cons call rest ih => exact congrArg _ (ih _)

theorem length_answers (limiter : RateLimiter) (calls : List Call) :
    (limiter.answers calls).length = calls.length := by
  induction calls generalizing limiter with
  | nil => rfl
  | cons call rest ih => exact congrArg Nat.succ (ih _)

theorem allowed_cons (limiter : RateLimiter) (call : Call) (rest : List Call) :
    limiter.allowed (call :: rest) =
      entry (limiter.check call.caller call.time).1 call ++
        (limiter.check call.caller call.time).2.allowed rest := by
  rw [allowed, answers, List.zip_cons_cons, List.filter_cons, entry]
  split <;> rfl

/-- Calls that come in order and not before now. -/
def InOrder (now : Nat) (calls : List Call) : Prop :=
  (calls.map Call.time).Pairwise (· ≤ ·) ∧ ∀ call ∈ calls, now ≤ call.time

theorem inOrder_cons (h : InOrder now (call :: calls)) :
    now ≤ call.time ∧ InOrder call.time calls := by
  obtain ⟨hordered, hlater⟩ := h
  rw [List.map_cons, List.pairwise_cons] at hordered
  refine ⟨hlater call List.mem_cons_self, hordered.2, fun other hother => ?_⟩
  exact hordered.1 _ (List.mem_map_of_mem hother)

namespace Remembers

/-- **A run keeps what a limiter remembers**: the log grows by the calls that are allowed, and the clock
moves on no further than to the last call. -/
theorem after (h : Remembers limiter log now) (horder : InOrder now calls) :
    ∃ later, Remembers (limiter.after calls) (log ++ limiter.allowed calls) later ∧
      ∀ time, now ≤ time → (∀ call ∈ calls, call.time ≤ time) → later ≤ time := by
  induction calls generalizing limiter log now with
  | nil => exact ⟨now, by simpa [RateLimiter.after, allowed] using h, fun time hnow _ => hnow⟩
  | cons call rest ih =>
    obtain ⟨hle, hrest⟩ := inOrder_cons horder
    obtain ⟨later, hnext, hlater⟩ := ih ((h.mono hle).check call.caller) hrest
    refine ⟨later, ?_, fun time hnow hall => ?_⟩
    · rw [allowed_cons, ← List.append_assoc]
      exact hnext
    · exact hlater time (hall call List.mem_cons_self)
        fun other hother => hall other (List.mem_cons_of_mem _ hother)

/-- **Forgetting makes no difference**: the answers are those that the whole log gives. -/
theorem answers_eq (h : Remembers limiter log now) (horder : InOrder now calls) :
    limiter.answers calls = judged limiter.maxRequests limiter.window log calls := by
  induction calls generalizing limiter log now with
  | nil => rfl
  | cons call rest ih =>
    obtain ⟨hle, hrest⟩ := inOrder_cons horder
    have hnext := ih ((h.mono hle).check call.caller) hrest
    rw [(h.mono hle).allowed_eq] at hnext
    rw [answers, judged, (h.mono hle).allowed_eq, hnext]
    rfl

end Remembers

/-- What is judged of the calls of a caller depends on the calls of that caller only. -/
theorem judged_filter {maxRequests window : Nat} {caller : String} {others : List Call}
    (h : ∀ now, load window log caller now = load window others caller now) :
    ((calls.zip (judged maxRequests window log calls)).filter fun entry =>
        entry.1.caller = caller).map Prod.snd =
      judged maxRequests window others (calls.filter fun call => call.caller = caller) := by
  induction calls generalizing log others with
  | nil => rfl
  | cons call rest ih =>
    rw [judged, List.zip_cons_cons]
    by_cases hcaller : call.caller = caller
    · rw [List.filter_cons_of_pos (by simpa using hcaller),
        List.filter_cons_of_pos (by simpa using hcaller), List.map_cons, judged, hcaller, h]
      refine congrArg _ (ih fun now => ?_)
      rw [load_append, load_append, h]
    · rw [List.filter_cons_of_neg (by simpa using hcaller),
        List.filter_cons_of_neg (by simpa using hcaller)]
      refine ih fun now => ?_
      rw [load_append, load_entry_of_ne _ hcaller, h, Nat.add_zero]

/-- The answer to a call depends on those before it alone. -/
theorem getElem?_answers (limiter : RateLimiter) (before : List Call) (call : Call)
    (rest : List Call) : (limiter.answers (before ++ call :: rest))[before.length]? =
      some ((limiter.after before).check call.caller call.time).1 := by
  rw [answers_append, List.getElem?_append_right (Nat.le_of_eq (limiter.length_answers before)),
    limiter.length_answers, Nat.sub_self]
  rfl

end

/-- **The sliding window.** If the clock does not run backwards, a call is allowed just if the caller
made fewer calls than the limit within the window that ends with it, among those that were allowed. So
no window of that length has more; a call that is not allowed might as well not have been made; calls
of other callers make no difference; and no more times than the limit are remembered for a caller. -/
theorem sliding_window (maxRequests window : Nat) {calls : List Call}
    (hclock : (calls.map Call.time).Pairwise (· ≤ ·)) :
    let limiter : RateLimiter := { maxRequests, window }
    (∀ before call rest, calls = before ++ call :: rest →
      ((limiter.answers calls)[before.length]? = some true ↔
        load window (limiter.allowed before) call.caller call.time < maxRequests)) ∧
    (∀ caller start, ((limiter.allowed calls).countP fun call =>
      call.caller = caller ∧ start ≤ call.time ∧ call.time < start + window) ≤ maxRequests) ∧
    (∀ before call rest, calls = before ++ call :: rest →
      (limiter.answers calls)[before.length]? = some false →
        limiter.answers (before ++ rest) = (limiter.answers calls).eraseIdx before.length) ∧
    (∀ caller, ((calls.zip (limiter.answers calls)).filter fun entry =>
        entry.1.caller = caller).map Prod.snd =
      limiter.answers (calls.filter fun call => call.caller = caller)) ∧
    ∀ caller, ((limiter.after calls).history caller).length ≤ maxRequests := by
  intro limiter
  have hempty : Remembers limiter [] 0 := .empty maxRequests window
  obtain ⟨later, hrun, -⟩ := hempty.after ⟨hclock, fun call _ => Nat.zero_le _⟩
  -- the calls before a call are a run too, at the end of which the clock has not passed the call
  have hbefore : ∀ before call rest, calls = before ++ call :: rest →
      Remembers (limiter.after before) (limiter.allowed before) call.time ∧
        InOrder call.time rest := by
    rintro before call rest rfl
    rw [List.map_append, List.map_cons, List.pairwise_append] at hclock
    obtain ⟨hfirst, hsecond, hcross⟩ := hclock
    obtain ⟨later, hlater, hle⟩ := hempty.after ⟨hfirst, fun other _ => Nat.zero_le _⟩
    refine ⟨hlater.mono (hle _ (Nat.zero_le _) fun other hother => ?_), ?_⟩
    · exact hcross _ (List.mem_map_of_mem hother) _ List.mem_cons_self
    · exact (inOrder_cons ⟨hsecond, fun other _ => Nat.zero_le _⟩).2
  refine ⟨fun before call rest hcalls => ?_, fun caller start => ?_,
    fun before call rest hcalls hdenied => ?_, fun caller => ?_, fun caller => ?_⟩
  · obtain ⟨hthen, -⟩ := hbefore before call rest hcalls
    rw [hcalls, getElem?_answers, hthen.allowed_eq, window_after, maxRequests_after,
      Option.some.injEq, decide_eq_true_eq]
  · simpa using hrun.spaced caller start
  · obtain ⟨hthen, hrest⟩ := hbefore before call rest hcalls
    subst hcalls
    rw [getElem?_answers, Option.some.injEq] at hdenied
    have hafter := hthen.check call.caller
    rw [hdenied, entry, if_neg Bool.false_ne_true, List.append_nil] at hafter
    rw [answers_append, answers_append, List.eraseIdx_append_of_length_le
      (Nat.le_of_eq (limiter.length_answers before)), limiter.length_answers, Nat.sub_self]
    refine congrArg _ ?_
    rw [answers, List.eraseIdx_cons_zero, hthen.answers_eq hrest, hafter.answers_eq hrest]
    rfl
  · have hcalls : InOrder 0 calls := ⟨hclock, fun call _ => Nat.zero_le _⟩
    have hothers : InOrder 0 (calls.filter fun call => call.caller = caller) :=
      ⟨hclock.sublist (List.filter_sublist.map _), fun call _ => Nat.zero_le _⟩
    rw [hempty.answers_eq hcalls, hempty.answers_eq hothers]
    exact judged_filter fun now => rfl
  · simpa using hrun.bounded caller

/-- One call in ten units of time: the second call of `a` comes too early, the third just in time. -/
theorem sliding_window_ofOne :
    let limiter : RateLimiter := { maxRequests := 1, window := 10 }
    let calls : List Call := [⟨"a", 0⟩, ⟨"a", 9⟩, ⟨"b", 9⟩, ⟨"a", 10⟩]
    (calls.map Call.time).Pairwise (· ≤ ·) ∧ limiter.answers calls = [true, false, true, true] ∧
      load 10 (limiter.allowed [⟨"a", 0⟩, ⟨"a", 9⟩, ⟨"b", 9⟩]) "a" 10 < 1 ∧
      limiter.answers [⟨"a", 0⟩, ⟨"b", 9⟩, ⟨"a", 10⟩] = [true, true, true] ∧
      (limiter.after calls).history "a" = [10] := by
  intro limiter calls
  have hclock : (calls.map Call.time).Pairwise (· ≤ ·) := by decide
  have hanswers : limiter.answers calls = [true, false, true, true] := by decide
  obtain ⟨hallowed, -, hdenied, -, -⟩ := sliding_window 1 10 hclock
  refine ⟨hclock, hanswers, ?_, ?_, by decide⟩
  · exact (hallowed [⟨"a", 0⟩, ⟨"a", 9⟩, ⟨"b", 9⟩] ⟨"a", 10⟩ [] rfl).mp (by rw [hanswers]; rfl)
  · have hsame := hdenied [⟨"a", 0⟩] ⟨"a", 9⟩ [⟨"b", 9⟩, ⟨"a", 10⟩] rfl (by rw [hanswers]; rfl)
    rw [hanswers] at hsame
    exact hsame

end RateLimiter

end Toolwright
