import PropertyTax.Http.Protections
import PropertyTax.Library.Runs
import PropertyTax.Library.Spans

/-! The counter of a client and a path. A request first counts itself, and the first one then
sets when the counter ends: these are two commands to the store, and either can fail, before or
after it has taken effect. Requests overlap as they come. -/
namespace PropertyTax.Http
open Runs Spans

namespace RateLimitMiddleware

def WINDOW_MS : Nat := 60000

def unavailable : Verdict := .refused 503 "AUTH_STORE_UNAVAILABLE" "Rate limiter is unavailable"

/-- The value of the key, and when the store drops it. -/
structure RateCell where
  count : Nat
  expiresAt : Option Nat := none

/-- A request that has been counted, and when. -/
structure Counted (Process : Type) where
  process : Process
  time : Nat

/-- The store, with the requests that it has counted. A window has those that found one and the
same counter, in their order; the newest window is first. -/
structure RateStore (Process : Type) where
  now : Nat
  cell : Option RateCell
  windows : List (List (Counted Process))

inductive RateProgress where
  | arrived
  | expiring
  | answered (verdict : Verdict)
deriving DecidableEq

/-- What becomes of a command. -/
inductive RedisOutcome where
  | done
  | failed (took : Bool)

/-- Time passes, or a request sends its next command. -/
inductive RateTurn (Process : Type) where
  | clock (ms : Nat)
  | command (process : Process) (outcome : RedisOutcome)

section Commands
variable {Process : Type}

/-- What the store has under the key. -/
def RateStore.live (store : RateStore Process) : Option RateCell :=
  store.cell.filter fun cell => cell.expiresAt.all fun last => store.now < last

/-- `INCR` -/
def RateStore.incr (process : Process) (store : RateStore Process) : Nat × RateStore Process :=
  match store.live with
  | none => (1, { store with
      cell := some { count := 1 }
      windows := [⟨process, store.now⟩] :: store.windows })
  | some cell => (cell.count + 1, { store with
      cell := some { cell with count := cell.count + 1 }
      windows := store.windows.modifyHead (· ++ [⟨process, store.now⟩]) })

/-- `EXPIRE`; it does nothing to a key that is gone. -/
def RateStore.expire (store : RateStore Process) : RateStore Process :=
  { store with
    cell := store.live.map fun cell => { cell with expiresAt := some (store.now + WINDOW_MS) } }

variable (url : RequestUrl)

/-- `applyRedisLimit`, up to the next answer of the store. -/
def applyRedisLimit (outcome : RedisOutcome) (process : Process) (progress : RateProgress)
    (store : RateStore Process) : RateProgress × RateStore Process :=
  match progress, outcome with
  | .arrived, .failed took =>
      (.answered unavailable, if took then (store.incr process).2 else store)
  | .arrived, .done =>
      let counted := store.incr process
      (if counted.1 = 1 then .expiring else .answered (limit counted.1 url), counted.2)
  | .expiring, .failed took => (.answered unavailable, if took then store.expire else store)
  | .expiring, .done => (.answered (limit 1 url), store.expire)
  | .answered verdict, _ => (.answered verdict, store)

variable [DecidableEq Process]

def takeTurn (system : System Process RateProgress (RateStore Process)) :
    RateTurn Process → System Process RateProgress (RateStore Process)
  | .clock ms => { system with shared.now := system.shared.now + ms }
  | .command process outcome => fire (applyRedisLimit url outcome) system process

end Commands

/-- No request of the client has come yet. -/
def noRequest {Process : Type} (now : Nat) : System Process RateProgress (RateStore Process) :=
  ⟨⟨now, none, []⟩, fun _ => .arrived⟩

section Answers
variable {Process : Type} (system : System Process RateProgress (RateStore Process))

/-- The request has been handed on. -/
def passed (process : Process) : Bool := system.locals process = .answered .next

/-- The request has been refused for its number. -/
def isLimited (process : Process) : Prop :=
  system.locals process = .answered (.refused 429 "RATE_LIMITED" "Too many requests")

/-- The counter will never be dropped: its first request got no answer to its second command. -/
def IsStuck : Prop :=
  (∃ cell, system.shared.cell = some cell ∧ cell.expiresAt = none) ∧
    ∀ process, system.locals process ≠ .expiring

end Answers

/-! ### The store -/

section Store
variable {Process : Type} {store : RateStore Process} {process : Process}

/-- The windows follow each other, and the counter is that of the newest. -/
structure RateStore.IsCounting (store : RateStore Process) : Prop where
  follows : store.windows.Pairwise (Follows Counted.time WINDOW_MS)
  begun : ∀ window ∈ store.windows, window ≠ []
  past : ∀ window ∈ store.windows, ∀ x ∈ window, x.time ≤ store.now
  absent : store.windows = [] → store.cell = none
  current : ∀ window rest, store.windows = window :: rest → ∃ cell, store.cell = some cell ∧
    cell.count = window.length ∧ ∀ last, cell.expiresAt = some last →
      (∃ x ∈ window, x.time + WINDOW_MS ≤ last) ∧ ∀ x ∈ window, x.time < last

/-- A counter is live as long as its time to live has not passed. -/
theorem RateStore.live_eq_some_iff {cell : RateCell} : store.live = some cell ↔
    store.cell = some cell ∧ ∀ last, cell.expiresAt = some last → store.now < last := by
  unfold RateStore.live
  rw [Option.filter_eq_some_iff]
  refine and_congr_right fun _ => ?_
  cases cell.expiresAt with
  | none => simp
  | some last => simp

/-- No counter is live before the first request, or once the time has passed. -/
theorem RateStore.live_eq_none_iff : store.live = none ↔
    ∀ cell, store.cell = some cell → ∃ last, cell.expiresAt = some last ∧ last ≤ store.now := by
  unfold RateStore.live
  rw [Option.filter_eq_none_iff]
  refine forall₂_congr fun cell _ => ?_
  cases cell.expiresAt with
  | none => simp
  | some last => simp

namespace RateStore

/-- Without a live counter, INCR starts one that never expires. -/
theorem incr_of_none (h : store.live = none) : store.incr process = (1, { store with
    cell := some { count := 1 }
    windows := [⟨process, store.now⟩] :: store.windows }) := by
  unfold incr
  rw [h]

/-- INCR adds one to a live counter and leaves its time to live. -/
theorem incr_of_some {cell : RateCell} (h : store.live = some cell) :
    store.incr process = (cell.count + 1, { store with
      cell := some { cell with count := cell.count + 1 }
      windows := store.windows.modifyHead (· ++ [⟨process, store.now⟩]) }) := by
  unfold incr
  rw [h]

/-- A counter that is there belongs to the newest window. -/
theorem IsCounting.newest (h : store.IsCounting) {cell : RateCell}
    (hCell : store.cell = some cell) :
    ∃ window rest, store.windows = window :: rest ∧ cell.count = window.length := by
  cases hWindows : store.windows with
  | nil =>
      rw [h.absent hWindows] at hCell
      cases hCell
  | cons window rest =>
      obtain ⟨found, hFound, hCount, -⟩ := h.current window rest hWindows
      obtain rfl := Option.some.inj (hCell.symm.trans hFound)
      exact ⟨window, rest, rfl, hCount⟩

/-- When there is no counter, all windows are over. -/
theorem IsCounting.over (h : store.IsCounting) (hNone : store.live = none) :
    ∀ window ∈ store.windows, (∀ x ∈ window, x.time < store.now) ∧
      ∃ x ∈ window, x.time + WINDOW_MS ≤ store.now := by
  cases hWindows : store.windows with
  | nil => exact fun _ hWindow => absurd hWindow List.not_mem_nil
  | cons newest rest =>
      obtain ⟨cell, hCell, -, hLast⟩ := h.current newest rest hWindows
      obtain ⟨last, hExpires, hOver⟩ := live_eq_none_iff.mp hNone cell hCell
      obtain ⟨⟨first, hFirst, hWide⟩, hBefore⟩ := hLast last hExpires
      have hNewest : ∀ x ∈ newest, x.time < store.now := fun x hx => (hBefore x hx).trans_le hOver
      refine List.forall_mem_cons.mpr ⟨⟨hNewest, first, hFirst, hWide.trans hOver⟩, ?_⟩
      intro window hWindow
      have hPairs := h.follows
      rw [hWindows] at hPairs
      have hFollows := (List.pairwise_cons.mp hPairs).1 window hWindow
      obtain ⟨x, hx, hWideOld⟩ := hFollows.wide
      exact ⟨fun y hy => (hFollows.after y hy first hFirst).trans (hNewest first hFirst), x, hx,
        (hWideOld first hFirst).trans (hNewest first hFirst).le⟩

/-- INCR counts the request that sends it. -/
theorem IsCounting.incr (h : store.IsCounting) : (store.incr process).2.IsCounting := by
  cases hLive : store.live with
  | none =>
      rw [incr_of_none hLive]
      have hOver := h.over hLive
      refine ⟨List.pairwise_cons.mpr ⟨fun window hWindow => ?_, h.follows⟩,
        List.forall_mem_cons.mpr ⟨by simp, h.begun⟩,
        List.forall_mem_cons.mpr ⟨by simp, h.past⟩, by simp, ?_⟩
      · obtain ⟨hBefore, x, hx, hWide⟩ := hOver window hWindow
        refine ⟨fun y hy z hz => ?_, x, hx, fun z hz => ?_⟩
        · rw [List.mem_singleton.mp hz]
          exact hBefore y hy
        · rw [List.mem_singleton.mp hz]
          exact hWide
      · intro window rest hWindows
        obtain ⟨rfl, -⟩ := List.cons.inj hWindows
        exact ⟨_, rfl, rfl, nofun⟩
  | some cell =>
      obtain ⟨hCell, hNow⟩ := live_eq_some_iff.mp hLive
      obtain ⟨newest, rest, hWindows, hCount⟩ := h.newest hCell
      rw [incr_of_some hLive]
      obtain ⟨hFollows, hBegun, hPast, -, hCurrent⟩ := h
      rw [hWindows] at hFollows hBegun hPast ⊢
      obtain ⟨hNewest, hRest⟩ := List.pairwise_cons.mp hFollows
      obtain ⟨hPastNewest, hPastRest⟩ := List.forall_mem_cons.mp hPast
      obtain ⟨y, hy⟩ := List.exists_mem_of_ne_nil newest (hBegun newest List.mem_cons_self)
      have hLater (older : List (Counted Process)) (hOlder : older ∈ rest) :
          Follows Counted.time WINDOW_MS (newest ++ [⟨process, store.now⟩]) older := by
        obtain ⟨hAfter, x, hx, hWide⟩ := hNewest older hOlder
        refine ⟨fun x hx z hz => ?_, x, hx, fun z hz => ?_⟩
        · rcases List.mem_append.mp hz with hOld | hNew
          · exact hAfter x hx z hOld
          · rw [List.mem_singleton.mp hNew]
            exact (hAfter x hx y hy).trans_le (hPastNewest y hy)
        · rcases List.mem_append.mp hz with hOld | hNew
          · exact hWide z hOld
          · rw [List.mem_singleton.mp hNew]
            exact (hWide y hy).trans (hPastNewest y hy)
      refine ⟨List.pairwise_cons.mpr ⟨hLater, hRest⟩, List.forall_mem_cons.mpr ⟨by simp,
        (List.forall_mem_cons.mp hBegun).2⟩, List.forall_mem_cons.mpr ⟨?_, hPastRest⟩, nofun, ?_⟩
      · intro x hx
        rcases List.mem_append.mp hx with hOld | hNew
        · exact hPastNewest x hOld
        · rw [List.mem_singleton.mp hNew]
      · intro window rest' hSplit
        obtain ⟨rfl, rfl⟩ := List.cons.inj hSplit
        obtain ⟨found, hFound, -, hLast⟩ := hCurrent newest rest hWindows
        obtain rfl := Option.some.inj (hCell.symm.trans hFound)
        refine ⟨_, rfl, by simp [hCount], fun last hExpires => ?_⟩
        obtain ⟨⟨x, hx, hWide⟩, hBefore⟩ := hLast last hExpires
        refine ⟨⟨x, List.mem_append_left _ hx, hWide⟩, fun z hz => ?_⟩
        rcases List.mem_append.mp hz with hOld | hNew
        · exact hBefore z hOld
        · rw [List.mem_singleton.mp hNew]
          exact hNow last hExpires

/-- A counter without a time to live is live. -/
theorem live_of_never {cell : RateCell} (hCell : store.cell = some cell)
    (hNever : cell.expiresAt = none) : store.live = some cell := by
  refine live_eq_some_iff.mpr ⟨hCell, fun last hLast => ?_⟩
  rw [hNever] at hLast
  cases hLast

/-- EXPIRE gives the live counter its time to live. -/
theorem expire_of_never {cell : RateCell} (hCell : store.cell = some cell)
    (hNever : cell.expiresAt = none) : store.expire = { store with
      cell := some { cell with expiresAt := some (store.now + WINDOW_MS) } } := by
  unfold expire
  rw [live_of_never hCell hNever]
  rfl

/-- EXPIRE leaves the count as it is. -/
theorem IsCounting.expire (h : store.IsCounting) {cell : RateCell} (hCell : store.cell = some cell)
    (hNever : cell.expiresAt = none) : store.expire.IsCounting := by
  rw [expire_of_never hCell hNever]
  obtain ⟨newest, rest, hWindows, hCount⟩ := h.newest hCell
  refine ⟨h.follows, h.begun, h.past, fun hNil => ?_, fun window rest' hSplit => ?_⟩
  · exact absurd (hNil.symm.trans hWindows) (by simp)
  · obtain ⟨rfl, rfl⟩ := List.cons.inj (hSplit.symm.trans hWindows)
    have hMem : window ∈ store.windows := hWindows ▸ List.mem_cons_self
    refine ⟨_, rfl, hCount, fun last hLast => ?_⟩
    obtain rfl := Option.some.inj hLast
    obtain ⟨x, hx⟩ := List.exists_mem_of_ne_nil window (h.begun window hMem)
    refine ⟨⟨x, hx, Nat.add_le_add_right (h.past window hMem x hx) _⟩, fun y hy => ?_⟩
    exact (h.past window hMem y hy).trans_lt (Nat.lt_add_of_pos_right (by decide))

/-- Time that passes leaves the count as it is. -/
theorem IsCounting.clock (h : store.IsCounting) (ms : Nat) :
    IsCounting { store with now := store.now + ms } :=
  ⟨h.follows, h.begun, fun window hWindow x hx =>
    Nat.le_add_right_of_le (h.past window hWindow x hx), h.absent, h.current⟩

/-- A request is counted at the end of one window, and the others stay as they are. -/
structure HasCounted (store : RateStore Process) (process : Process)
    (counted : Nat × RateStore Process) : Prop where
  old : ∀ window ∈ counted.2.windows, window ∈ store.windows ∨
    ∃ before, window = before ++ [⟨process, store.now⟩] ∧ counted.1 = window.length ∧
      (before = [] ∨ before ∈ store.windows)
  kept : ∀ window ∈ store.windows, ∃ window' ∈ counted.2.windows, window <+: window'
  own : ∃ before, before ++ [⟨process, store.now⟩] ∈ counted.2.windows ∧
    counted.1 = before.length + 1

/-- After INCR the sending request is in the last window, or has begun one. -/
theorem IsCounting.hasCounted (h : store.IsCounting) :
    HasCounted store process (store.incr process) := by
  cases hLive : store.live with
  | none =>
      rw [incr_of_none hLive]
      refine ⟨fun window hWindow => ?_, fun window hWindow => ?_, [], List.mem_cons_self, rfl⟩
      · rcases List.mem_cons.mp hWindow with rfl | hOld
        · exact .inr ⟨[], rfl, rfl, .inl rfl⟩
        · exact .inl hOld
      · exact ⟨window, List.mem_cons_of_mem _ hWindow, List.prefix_rfl⟩
  | some cell =>
      obtain ⟨newest, rest, hWindows, hCount⟩ := h.newest (live_eq_some_iff.mp hLive).1
      rw [incr_of_some hLive]
      constructor
      · intro window hWindow
        rw [hWindows] at hWindow ⊢
        rcases List.mem_cons.mp hWindow with rfl | hOld
        · exact .inr ⟨newest, rfl, by simp [hCount], .inr List.mem_cons_self⟩
        · exact .inl (List.mem_cons_of_mem _ hOld)
      · intro window hWindow
        rw [hWindows] at hWindow ⊢
        rcases List.mem_cons.mp hWindow with rfl | hOld
        · exact ⟨_, List.mem_cons_self, List.prefix_append _ _⟩
        · exact ⟨window, List.mem_cons_of_mem _ hOld, List.prefix_rfl⟩
      · rw [hWindows]
        exact ⟨newest, List.mem_cons_self, by rw [hCount]⟩

/-- The first request of a counter finds none. -/
theorem IsCounting.live_of_first (h : store.IsCounting) (hFirst : (store.incr process).1 = 1) :
    store.live = none := by
  cases hLive : store.live with
  | none => rfl
  | some cell =>
      obtain ⟨newest, rest, hWindows, hCount⟩ := h.newest (live_eq_some_iff.mp hLive).1
      have hLength := List.length_pos_of_ne_nil
        (h.begun newest (hWindows ▸ List.mem_cons_self))
      rw [incr_of_some hLive] at hFirst
      dsimp only at hFirst
      omega

end RateStore
end Store

/-! ### Requests in any order -/

section Requests
variable {url : RequestUrl} {Process : Type}
  {system : System Process RateProgress (RateStore Process)} {process : Process}

theorem getRateLimitMax_pos (path : String) : 0 < getRateLimitMax path := by
  unfold getRateLimitMax
  split_ifs <;> decide

/-- What the requests have been told fits where they have been counted. -/
structure IsLimiting (url : RequestUrl) (system : System Process RateProgress (RateStore Process)) :
    Prop where
  counting : system.shared.IsCounting
  begun : ∀ window ∈ system.shared.windows, ∀ x ∈ window, system.locals x.process ≠ .arrived
  late : ∀ window ∈ system.shared.windows, ∀ x ∈ window.drop (getRateLimitMax url.path),
    ∃ verdict, system.locals x.process = .answered verdict ∧ verdict ≠ .next
  passed : ∀ process, system.locals process = .answered .next →
    ∃ window ∈ system.shared.windows, ∃ x ∈ window, x.process = process
  limited : ∀ process, isLimited system process → ∃ window ∈ system.shared.windows,
    ∃ x ∈ window.drop (getRateLimitMax url.path), x.process = process
  expiring : ∀ process, system.locals process = .expiring →
    (∃ cell, system.shared.cell = some cell ∧ cell.expiresAt = none) ∧
      ∃ window ∈ system.shared.windows, ∃ x ∈ window, x.process = process
  single : ∀ process other, system.locals process = .expiring →
    system.locals other = .expiring → process = other

namespace IsLimiting
variable {after : System Process RateProgress (RateStore Process)}

/-- A request that is on its way is answered, and the windows stay as they are. -/
theorem answer (h : IsLimiting url system) {verdict : Verdict}
    (hSame : ∀ other, other ≠ process → after.locals other = system.locals other)
    (hSelf : after.locals process = .answered verdict)
    (hOpen : ∀ old, system.locals process ≠ .answered old)
    (hVerdict : verdict = unavailable ∨ verdict = .next ∧ system.locals process = .expiring)
    (hWindows : after.shared.windows = system.shared.windows) (hCounting : after.shared.IsCounting)
    (hCell : ∀ other, other ≠ process → system.locals other = .expiring →
      after.shared.cell = system.shared.cell) : IsLimiting url after := by
  have hNe {other : Process} (hOther : after.locals other = .expiring) : other ≠ process := by
    rintro rfl
    rw [hSelf] at hOther
    cases hOther
  refine ⟨hCounting, ?_, ?_, ?_, ?_, ?_, ?_⟩
  · intro window hWindow x hx
    rw [hWindows] at hWindow
    by_cases hx' : x.process = process
    · rw [hx', hSelf]
      exact nofun
    · rw [hSame _ hx']
      exact h.begun window hWindow x hx
  · intro window hWindow x hx
    rw [hWindows] at hWindow
    obtain ⟨old, hOld, hNext⟩ := h.late window hWindow x hx
    refine ⟨old, (hSame _ fun hx' => ?_).trans hOld, hNext⟩
    exact hOpen old (hx' ▸ hOld)
  · intro other hOther
    rw [hWindows]
    by_cases hx : other = process
    · rw [hx, hSelf] at hOther
      rcases hVerdict with hUnavailable | ⟨-, hExpiring⟩
      · rw [hUnavailable] at hOther
        cases hOther
      · rw [hx]
        exact (h.expiring process hExpiring).2
    · exact h.passed other ((hSame other hx).symm.trans hOther)
  · intro other hOther
    rw [hWindows]
    by_cases hx : other = process
    · rw [isLimited, hx, hSelf] at hOther
      rcases hVerdict with hUnavailable | ⟨hNext, -⟩
      · rw [hUnavailable] at hOther
        exact absurd hOther (by decide)
      · rw [hNext] at hOther
        cases hOther
    · exact h.limited other ((hSame other hx).symm.trans hOther)
  · intro other hOther
    have hx := hNe hOther
    rw [hSame other hx] at hOther
    rw [hWindows, hCell other hx hOther]
    exact h.expiring other hOther
  · intro first second hFirst hSecond
    exact h.single first second ((hSame first (hNe hFirst)).symm.trans hFirst)
      ((hSame second (hNe hSecond)).symm.trans hSecond)

theorem hasCounted (h : IsLimiting url system) (process : Process) :
    RateStore.HasCounted system.shared process (system.shared.incr process) :=
  h.counting.hasCounted

end IsLimiting

/-- What a request is told when it has been counted. -/
def FitsCount (url : RequestUrl) (count : Nat) (progress : RateProgress) : Prop :=
  progress = .answered unavailable ∨
    progress = if count = 1 then .expiring else .answered (limit count url)

/-- A request that has just come is counted, and nothing else happens. -/
structure Counts (url : RequestUrl) (system after : System Process RateProgress (RateStore Process))
    (process : Process) : Prop where
  same : ∀ other, other ≠ process → after.locals other = system.locals other
  arrived : system.locals process = .arrived
  shared : after.shared = (system.shared.incr process).2
  fits : FitsCount url (system.shared.incr process).1 (after.locals process)

theorem mem_drop_append {α : Type} {x y : α} {before : List α} {n : Nat}
    (h : x ∈ (before ++ [y]).drop n) : x ∈ before.drop n ∨ x = y ∧ n ≤ before.length := by
  rw [List.drop_append] at h
  rcases List.mem_append.mp h with hOld | hNew
  · exact .inl hOld
  · refine .inr ⟨List.mem_singleton.mp (List.mem_of_mem_drop hNew), ?_⟩
    by_contra hLong
    rw [List.drop_of_length_le (by simp; omega)] at hNew
    cases hNew

namespace Counts
variable {after : System Process RateProgress (RateStore Process)}
  (c : Counts url system after process) (h : IsLimiting url system)
include c h

/-- A step of one request leaves the progress of the others alone. -/
theorem others {window : List (Counted Process)} (hWindow : window ∈ system.shared.windows)
    {x : Counted Process} (hx : x ∈ window) : after.locals x.process = system.locals x.process :=
  c.same _ fun hx' => h.begun window hWindow x hx (hx' ▸ c.arrived)

/-- The request that has just been counted is in a window. -/
theorem own : ∃ window ∈ after.shared.windows, ∃ x ∈ window, x.process = process := by
  obtain ⟨before, hOwn, -⟩ := (h.hasCounted process).own
  exact ⟨_, c.shared ▸ hOwn, ⟨process, system.shared.now⟩, by simp, rfl⟩

/-- A window is only ever continued. -/
theorem kept {window : List (Counted Process)} (hWindow : window ∈ system.shared.windows) :
    ∃ window' ∈ after.shared.windows, window <+: window' :=
  c.shared ▸ (h.hasCounted process).kept window hWindow

theorem entry {other : Process} (hOther : ∃ window ∈ system.shared.windows, ∃ x ∈ window,
    x.process = other) : ∃ window ∈ after.shared.windows, ∃ x ∈ window, x.process = other := by
  obtain ⟨window, hWindow, x, hx, hx'⟩ := hOther
  obtain ⟨window', hWindow', hPrefix⟩ := c.kept h hWindow
  exact ⟨window', hWindow', x, hPrefix.subset hx, hx'⟩

/-- Only the first request of a counter goes on to its second command. -/
theorem first (hSelf : after.locals process = .expiring) : system.shared.live = none := by
  refine h.counting.live_of_first (?_ : (system.shared.incr process).1 = 1)
  rcases c.fits with hUnavailable | hFits
  · exact absurd (hSelf.symm.trans hUnavailable) nofun
  · by_contra hCount
    rw [if_neg hCount, hSelf] at hFits
    cases hFits

/-- A counted request has left its start. -/
theorem begun : ∀ window ∈ after.shared.windows, ∀ x ∈ window,
    after.locals x.process ≠ .arrived := by
  intro window hWindow x hx
  have hOld {old : List (Counted Process)} (hMem : old ∈ system.shared.windows) (hx : x ∈ old) :
      after.locals x.process ≠ .arrived := by
    rw [c.others h hMem hx]
    exact h.begun old hMem x hx
  rw [c.shared] at hWindow
  rcases (h.hasCounted process).old window hWindow with hMem | ⟨before, rfl, -, hBefore⟩
  · exact hOld hMem hx
  · rcases List.mem_append.mp hx with hx | hNew
    · exact hOld (hBefore.resolve_left (List.ne_nil_of_mem hx)) hx
    · rw [List.mem_singleton.mp hNew]
      rcases c.fits with hUnavailable | hFits
      · rw [hUnavailable]
        exact nofun
      · rw [hFits]
        split_ifs <;> exact nofun

/-- Whoever comes late in a window is not handed on. -/
theorem late : ∀ window ∈ after.shared.windows,
    ∀ x ∈ window.drop (getRateLimitMax url.path),
      ∃ verdict, after.locals x.process = .answered verdict ∧ verdict ≠ .next := by
  intro window hWindow x hx
  have hMax := getRateLimitMax_pos url.path
  have hOld {old : List (Counted Process)} (hMem : old ∈ system.shared.windows)
      (hx : x ∈ old.drop (getRateLimitMax url.path)) :
      ∃ verdict, after.locals x.process = .answered verdict ∧ verdict ≠ .next := by
    rw [c.others h hMem (List.mem_of_mem_drop hx)]
    exact h.late old hMem x hx
  rw [c.shared] at hWindow
  rcases (h.hasCounted process).old window hWindow with hMem | ⟨before, rfl, hCount, hBefore⟩
  · exact hOld hMem hx
  · rcases mem_drop_append hx with hx | ⟨rfl, hLong⟩
    · exact hOld (hBefore.resolve_left (List.ne_nil_of_mem (List.mem_of_mem_drop hx))) hx
    · rw [List.length_append, List.length_singleton] at hCount
      rcases c.fits with hUnavailable | hFits
      · exact ⟨_, hUnavailable, nofun⟩
      · rw [if_neg (by omega), limit, if_pos (by omega)] at hFits
        exact ⟨_, hFits, nofun⟩

/-- A request that is let through was counted. -/
theorem passed (other : Process) (hOther : after.locals other = .answered .next) :
    ∃ window ∈ after.shared.windows, ∃ x ∈ window, x.process = other := by
  by_cases hx : other = process
  · rw [hx]
    exact c.own h
  · exact c.entry h (h.passed other ((c.same other hx).symm.trans hOther))

/-- A request that is turned away was counted beyond the limit of its window. -/
theorem limited (other : Process) (hOther : isLimited after other) :
    ∃ window ∈ after.shared.windows, ∃ x ∈ window.drop (getRateLimitMax url.path),
      x.process = other := by
  by_cases hx : other = process
  · obtain ⟨before, hWindow, hCount⟩ := (h.hasCounted process).own
    rw [← c.shared] at hWindow
    refine ⟨_, hWindow, ⟨process, system.shared.now⟩, ?_, hx.symm⟩
    have hOver : getRateLimitMax url.path ≤ before.length := by
      by_contra hShort
      rw [isLimited, hx] at hOther
      rcases c.fits with hUnavailable | hFits
      · rw [hUnavailable] at hOther
        exact absurd hOther (by decide)
      · rw [limit, if_neg (show ¬ getRateLimitMax url.path <
          (system.shared.incr process).1 by omega), hOther] at hFits
        split_ifs at hFits
        cases hFits
    rw [List.drop_append, Nat.sub_eq_zero_of_le hOver]
    exact List.mem_append_right _ (List.mem_singleton_self _)
  · obtain ⟨window, hWindow, x, hLate, hx'⟩ :=
      h.limited other ((c.same other hx).symm.trans hOther)
    obtain ⟨window', hWindow', more, rfl⟩ := c.kept h hWindow
    refine ⟨_, hWindow', x, ?_, hx'⟩
    rw [List.drop_append]
    exact List.mem_append_left _ hLate

/-- A counter that does not end is there. -/
theorem expiring (other : Process) (hOther : after.locals other = .expiring) :
    (∃ cell, after.shared.cell = some cell ∧ cell.expiresAt = none) ∧
      ∃ window ∈ after.shared.windows, ∃ x ∈ window, x.process = other := by
  by_cases hx : other = process
  · rw [hx] at hOther ⊢
    refine ⟨?_, c.own h⟩
    rw [c.shared, RateStore.incr_of_none (c.first h hOther)]
    exact ⟨_, rfl, rfl⟩
  · obtain ⟨⟨cell, hCell, hNever⟩, hFound⟩ :=
      h.expiring other ((c.same other hx).symm.trans hOther)
    refine ⟨?_, c.entry h hFound⟩
    rw [c.shared, RateStore.incr_of_some (RateStore.live_of_never hCell hNever)]
    exact ⟨_, rfl, hNever⟩

theorem single (one other : Process) (hOne : after.locals one = .expiring)
    (hOther : after.locals other = .expiring) : one = other := by
  have hAlone {other : Process} (hOther : after.locals other = .expiring)
      (hProcess : after.locals process = .expiring) : other = process := by
    by_contra hx
    obtain ⟨⟨cell, hCell, hNever⟩, -⟩ := h.expiring other ((c.same other hx).symm.trans hOther)
    have hNone := c.first h hProcess
    rw [RateStore.live_of_never hCell hNever] at hNone
    cases hNone
  by_cases hx : one = process
  · subst hx
    exact (hAlone hOther hOne).symm
  · by_cases hy : other = process
    · subst hy
      exact hAlone hOne hOther
    · exact h.single one other ((c.same one hx).symm.trans hOne)
        ((c.same other hy).symm.trans hOther)

theorem isLimiting : IsLimiting url after where
  counting := by
    rw [c.shared]
    exact h.counting.incr
  begun := c.begun h
  late := c.late h
  passed := c.passed h
  limited := c.limited h
  expiring := c.expiring h
  single := c.single h

end Counts

/-- The first request of a window is let through. -/
theorem limit_one (url : RequestUrl) : limit 1 url = .next :=
  if_neg (Nat.not_lt.mpr (getRateLimitMax_pos url.path))

variable [DecidableEq Process]

/-- Every turn keeps the windows in order. -/
theorem IsLimiting.takeTurn (h : IsLimiting url system) (turn : RateTurn Process) :
    IsLimiting url (takeTurn url system turn) := by
  cases turn with
  | clock ms =>
      exact ⟨h.counting.clock ms, h.begun, h.late, h.passed, h.limited, h.expiring, h.single⟩
  | command process outcome =>
      have hSame (other : Process) (hOther : other ≠ process) :
          (fire (applyRedisLimit url outcome) system process).locals other = system.locals other :=
        fire_locals_of_ne system hOther
      have hSelf : (fire (applyRedisLimit url outcome) system process).locals process = _ :=
        fire_locals_self system process
      have hShared : (fire (applyRedisLimit url outcome) system process).shared = _ :=
        fire_shared system process
      cases hProgress : system.locals process with
      | arrived =>
          rw [hProgress] at hSelf hShared
          cases outcome with
          | done => exact (Counts.mk hSame hProgress hShared (.inr hSelf)).isLimiting h
          | failed took =>
              cases took with
              | true => exact (Counts.mk hSame hProgress hShared (.inl hSelf)).isLimiting h
              | false =>
                  refine h.answer hSame hSelf (by rw [hProgress]; nofun) (.inl rfl)
                    (congrArg RateStore.windows hShared) ?_ fun _ _ _ =>
                    congrArg RateStore.cell hShared
                  exact hShared ▸ h.counting
      | expiring =>
          rw [hProgress] at hSelf hShared
          obtain ⟨⟨cell, hCell, hNever⟩, -⟩ := h.expiring process hProgress
          have hOpen : ∀ old, system.locals process ≠ .answered old := by
            rw [hProgress]
            nofun
          have hAlone (other : Process) (hOther : other ≠ process)
              (hExpiring : system.locals other = .expiring) : False :=
            hOther (h.single other process hExpiring hProgress)
          have hExpire := h.counting.expire hCell hNever
          have hWindows : system.shared.expire.windows = system.shared.windows := rfl
          cases outcome with
          | done =>
              refine h.answer hSame hSelf hOpen (.inr ⟨limit_one url, hProgress⟩)
                ((congrArg RateStore.windows hShared).trans hWindows) (hShared ▸ hExpire) ?_
              exact fun other hOther hExpiring => (hAlone other hOther hExpiring).elim
          | failed took =>
              refine h.answer hSame hSelf hOpen (.inl rfl) ?_ ?_ fun other hOther hExpiring =>
                (hAlone other hOther hExpiring).elim
              · cases took
                · exact congrArg RateStore.windows hShared
                · exact (congrArg RateStore.windows hShared).trans hWindows
              · cases took
                · exact hShared ▸ h.counting
                · exact hShared ▸ hExpire
      | answered verdict =>
          have hStutter : fire (applyRedisLimit url outcome) system process = system := by
            refine fire_eq_self ?_
            rw [hProgress]
            rfl
          change IsLimiting url (fire (applyRedisLimit url outcome) system process)
          rw [hStutter]
          exact h

omit [DecidableEq Process] in
/-- Before any request there is no window. -/
theorem isLimiting_noRequest (now : Nat) : IsLimiting url (@noRequest Process now) where
  counting := ⟨.nil, nofun, nofun, fun _ => rfl, nofun⟩
  begun := nofun
  late := nofun
  passed := nofun
  limited := nofun
  expiring := nofun
  single := nofun

end Requests

/-- How many of the requests that came in a span as long as a window were handed on. -/
def handedOn {Process : Type} (system : System Process RateProgress (RateStore Process))
    (start : Nat) : Nat :=
  system.shared.windows.flatten.countP fun x =>
    passed system x.process && within Counted.time WINDOW_MS start x

/-- In whatever order the commands of the requests come, fail and take effect: all that are handed
on are counted, a span as long as a window sees no more than twice the maximum of them, and who is
refused for the number finds that the window has had the maximum before. -/
theorem rate_limit_windows (url : RequestUrl) {Process : Type} [DecidableEq Process] (now : Nat)
    (turns : List (RateTurn Process)) {after : System Process RateProgress (RateStore Process)}
    (hAfter : run (takeTurn url) (noRequest now) turns = after) :
    (∀ process, passed after process = true →
      ∃ window ∈ after.shared.windows, ∃ x ∈ window, x.process = process) ∧
    (∀ start, handedOn after start ≤ 2 * getRateLimitMax url.path) ∧
    ∀ process, isLimited after process → ∃ window ∈ after.shared.windows,
      ∃ x ∈ window.drop (getRateLimitMax url.path), x.process = process := by
  have h : IsLimiting url after := by
    rw [← hAfter]
    exact run_invariant _ (fun _ turn h => h.takeTurn turn) (isLimiting_noRequest now) turns
  refine ⟨fun process hPassed => h.passed process (of_decide_eq_true hPassed), fun start => ?_,
    h.limited⟩
  refine countP_flatten_le h.counting.follows (fun window hWindow => ?_) start
  have hLate : (window.drop (getRateLimitMax url.path)).countP (fun x => passed after x.process) =
      0 := by
    rw [List.countP_eq_zero]
    intro x hx hPassed
    obtain ⟨verdict, hVerdict, hNext⟩ := h.late window hWindow x hx
    have hBoth := hVerdict.symm.trans (of_decide_eq_true hPassed)
    exact hNext (RateProgress.answered.inj hBoth)
  rw [← List.take_append_drop (getRateLimitMax url.path) window, List.countP_append, hLate]
  exact (List.countP_le_length).trans (List.length_take_le _ _)

/-! ### A counter that stays -/

section Staying
variable {url : RequestUrl} {Process : Type} [DecidableEq Process]
  {system : System Process RateProgress (RateStore Process)} {process : Process}

/-- Where there is no counter, the next request begins a window. -/
theorem windows_of_none (hArrived : system.locals process = .arrived)
    (hNone : system.shared.live = none) :
    (takeTurn url system (.command process .done)).shared.windows.length =
      system.shared.windows.length + 1 := by
  have hShared : (takeTurn url system (.command process .done)).shared =
      (applyRedisLimit url .done process (system.locals process) system.shared).2 :=
    fire_shared system process
  rw [hShared, hArrived]
  change (system.shared.incr process).2.windows.length = _
  rw [RateStore.incr_of_none hNone]
  rfl

/-- A counter that will never end, with the requests it has counted. -/
structure Stays (url : RequestUrl) (length count : Nat) (fresh : Process → Prop)
    (system : System Process RateProgress (RateStore Process)) : Prop where
  limiting : IsLimiting url system
  cell : ∃ cell, system.shared.cell = some cell ∧ cell.expiresAt = none ∧ count ≤ cell.count
  quiet : ∀ process, system.locals process ≠ .expiring
  length : system.shared.windows.length = length
  refused : getRateLimitMax url.path ≤ count → ∀ process, fresh process →
    system.locals process ≠ .answered .next

namespace Stays
variable {length count : Nat} {fresh : Process → Prop}

omit [DecidableEq Process] in
/-- A request is answered, and not handed on if the maximum is reached. -/
theorem answer (h : Stays url length count fresh system)
    {after : System Process RateProgress (RateStore Process)} (hLimiting : IsLimiting url after)
    {verdict : Verdict}
    (hSame : ∀ other, other ≠ process → after.locals other = system.locals other)
    (hSelf : after.locals process = .answered verdict)
    (hVerdict : getRateLimitMax url.path ≤ count → verdict ≠ .next)
    (hCell : ∃ cell, after.shared.cell = some cell ∧ cell.expiresAt = none ∧ count ≤ cell.count)
    (hLength : after.shared.windows.length = system.shared.windows.length) :
    Stays url length count fresh after := by
  refine ⟨hLimiting, hCell, fun other hOther => ?_, hLength.trans h.length,
    fun hMax other hFresh hOther => ?_⟩
  · by_cases hx : other = process
    · rw [hx, hSelf] at hOther
      cases hOther
    · exact h.quiet other ((hSame other hx).symm.trans hOther)
  · by_cases hx : other = process
    · rw [hx, hSelf] at hOther
      exact hVerdict hMax (RateProgress.answered.inj hOther)
    · exact h.refused hMax other hFresh ((hSame other hx).symm.trans hOther)

omit [DecidableEq Process] in
/-- Counting one more request changes nothing but the number. -/
theorem incr (h : Stays url length count fresh system) (process : Process) :
    count + 1 ≤ (system.shared.incr process).1 ∧ 1 < (system.shared.incr process).1 ∧
      (∃ cell, (system.shared.incr process).2.cell = some cell ∧ cell.expiresAt = none ∧
        count ≤ cell.count) ∧
      (system.shared.incr process).2.windows.length = system.shared.windows.length := by
  obtain ⟨cell, hCell, hNever, hCount⟩ := h.cell
  obtain ⟨newest, rest, hWindows, hLength⟩ := h.limiting.counting.newest hCell
  have hBegun := List.length_pos_of_ne_nil
    (h.limiting.counting.begun newest (hWindows ▸ List.mem_cons_self))
  rw [RateStore.incr_of_some (RateStore.live_of_never hCell hNever)]
  refine ⟨Nat.add_le_add_right hCount 1, ?_, ⟨_, rfl, hNever, Nat.le_add_right_of_le hCount⟩, ?_⟩
  · dsimp only
    omega
  · exact List.length_modifyHead ..

theorem takeTurn (h : Stays url length count fresh system) (turn : RateTurn Process) :
    Stays url length count fresh (takeTurn url system turn) := by
  have hLimiting := h.limiting.takeTurn turn
  cases turn with
  | clock ms => exact ⟨hLimiting, h.cell, h.quiet, h.length, h.refused⟩
  | command process outcome =>
      have hSame (other : Process) (hOther : other ≠ process) :
          (fire (applyRedisLimit url outcome) system process).locals other = system.locals other :=
        fire_locals_of_ne system hOther
      have hSelf : (fire (applyRedisLimit url outcome) system process).locals process = _ :=
        fire_locals_self system process
      have hShared : (fire (applyRedisLimit url outcome) system process).shared = _ :=
        fire_shared system process
      obtain ⟨hCount, hMore, hCell, hLength⟩ := h.incr process
      cases hProgress : system.locals process with
      | arrived =>
          rw [hProgress] at hSelf hShared
          cases outcome with
          | done =>
              have hTold : (fire (applyRedisLimit url .done) system process).locals process =
                  .answered (limit (system.shared.incr process).1 url) :=
                hSelf.trans (if_neg (Nat.ne_of_gt hMore))
              refine h.answer hLimiting hSame hTold (fun hMax => ?_) (hShared ▸ hCell)
                (hShared ▸ hLength)
              rw [limit, if_pos (Nat.lt_of_le_of_lt hMax hCount)]
              exact nofun
          | failed took =>
              refine h.answer hLimiting hSame hSelf (fun _ => nofun) ?_ ?_
              · cases took
                · exact hShared ▸ h.cell
                · exact hShared ▸ hCell
              · cases took
                · exact congrArg (fun store => store.windows.length) hShared
                · exact hShared ▸ hLength
      | expiring => exact absurd hProgress (h.quiet process)
      | answered verdict =>
          have hStutter : fire (applyRedisLimit url outcome) system process = system := by
            refine fire_eq_self ?_
            rw [hProgress]
            rfl
          change Stays url length count fresh (fire (applyRedisLimit url outcome) system process)
          rw [hStutter]
          exact h

end Stays

/-- A counter with an end is over when the time has come. -/
theorem windows_of_last {cell : RateCell} {last : Nat} (hArrived : system.locals process = .arrived)
    (hCell : system.shared.cell = some cell) (hLast : cell.expiresAt = some last) :
    (run (takeTurn url) system [.clock last, .command process .done]).shared.windows.length =
      system.shared.windows.length + 1 := by
  rw [run_cons, run_cons, run_nil]
  refine windows_of_none hArrived (RateStore.live_eq_none_iff.mpr fun found hFound => ?_)
  obtain rfl := Option.some.inj (hCell.symm.trans hFound)
  exact ⟨last, hLast, Nat.le_add_left _ _⟩

/-- The counter can end: its first request sets the end, and a minute goes by. -/
theorem exists_new_window (hArrived : system.locals process = .arrived)
    (hStuck : ¬ IsStuck system) : ∃ later, (run (takeTurn url) system later).shared.windows.length =
      system.shared.windows.length + 1 := by
  cases hCell : system.shared.cell with
  | none =>
      have hNone : system.shared.live = none := RateStore.live_eq_none_iff.mpr
        fun cell hSome => absurd (hSome.symm.trans hCell) nofun
      exact ⟨[.command process .done], windows_of_none hArrived hNone⟩
  | some cell =>
      cases hLast : cell.expiresAt with
      | some last => exact ⟨_, windows_of_last hArrived hCell hLast⟩
      | none =>
          obtain ⟨first, hFirst⟩ : ∃ first, system.locals first = .expiring := by
            by_contra hNone
            exact hStuck ⟨⟨cell, hCell, hLast⟩, fun first hFirst => hNone ⟨first, hFirst⟩⟩
          have hNe : process ≠ first := by
            rintro rfl
            rw [hArrived] at hFirst
            cases hFirst
          have hShared : (takeTurn url system (.command first .done)).shared =
              system.shared.expire := by
            refine (fire_shared system first).trans ?_
            rw [hFirst]
            rfl
          have hArrived' : (takeTurn url system (.command first .done)).locals process = .arrived :=
            (fire_locals_of_ne system hNe).trans hArrived
          have hCell' : (takeTurn url system (.command first .done)).shared.cell = some
              { cell with expiresAt := some (system.shared.now + WINDOW_MS) } := by
            rw [hShared, RateStore.expire_of_never hCell hLast]
          refine ⟨.command first .done :: 
            [.clock (system.shared.now + WINDOW_MS), .command process .done], ?_⟩
          rw [run_cons, windows_of_last hArrived' hCell' rfl, hShared]
          rfl

end Staying

/-- A counter never gives way to a new one exactly if its first request has failed before it set
the end of it. And then, once the maximum is counted, no request that comes is ever handed on. -/
theorem rate_counter_stays_iff (url : RequestUrl) {Process : Type} [DecidableEq Process]
    (now : Nat) (turns : List (RateTurn Process))
    {system : System Process RateProgress (RateStore Process)}
    (hSystem : run (takeTurn url) (noRequest now) turns = system) {process : Process}
    (hArrived : system.locals process = .arrived) :
    ((∀ later, (run (takeTurn url) system later).shared.windows.length =
      system.shared.windows.length) ↔ IsStuck system) ∧
    ∀ cell, system.shared.cell = some cell → IsStuck system →
      getRateLimitMax url.path ≤ cell.count → ∀ later other, system.locals other = .arrived →
        (run (takeTurn url) system later).locals other ≠ .answered .next := by
  have h : IsLimiting url system := by
    rw [← hSystem]
    exact run_invariant _ (fun _ turn h => h.takeTurn turn) (isLimiting_noRequest now) turns
  have hStays (cell : RateCell) (hCell : system.shared.cell = some cell) (hStuck : IsStuck system)
      (later : List (RateTurn Process)) : Stays url system.shared.windows.length cell.count
        (fun other => system.locals other = .arrived) (run (takeTurn url) system later) := by
    refine run_invariant _ (fun _ turn h => h.takeTurn turn) ⟨h, ?_, hStuck.2, rfl, ?_⟩ later
    · obtain ⟨found, hFound, hNever⟩ := hStuck.1
      obtain rfl := Option.some.inj (hCell.symm.trans hFound)
      exact ⟨cell, hCell, hNever, le_rfl⟩
    · intro _ other hFresh hOther
      rw [hFresh] at hOther
      cases hOther
  refine ⟨⟨fun hAlways => ?_, fun hStuck later => ?_⟩, fun cell hCell hStuck hMax later other => ?_⟩
  · by_contra hStuck
    obtain ⟨later, hNew⟩ := @exists_new_window url _ _ _ _ hArrived hStuck
    have hOld := hAlways later
    omega
  · obtain ⟨⟨cell, hCell, -⟩, -⟩ := id hStuck
    exact (hStays cell hCell hStuck later).length
  · exact (hStays cell hCell hStuck later).refused hMax other

namespace Sample

/-- The first of two requests is counted, and the end of the counter is not set. -/
def lostEnd : System Bool RateProgress (RateStore Bool) :=
  run (takeTurn Http.Sample.loginPath) (noRequest 0)
    [.command true .done, .command true (.failed false)]

/-- The counter whose EXPIRE is lost has no end. -/
theorem lostEnd_isStuck : IsStuck lostEnd where
  left := ⟨_, rfl, rfl⟩
  right process := by
    cases process
    · exact nofun
    · exact nofun

end Sample

/-- Even then no more requests are handed on than the windows admit. -/
theorem rate_limit_windows_lostEnd : handedOn Sample.lostEnd 0 ≤ 40 :=
  (rate_limit_windows Http.Sample.loginPath 0
    [.command true .done, .command true (.failed false)] (rfl : _ = Sample.lostEnd)).2.1 0

/-- A day later the second request is counted in the same window. -/
theorem rate_counter_stays_iff_lostEnd : (run (takeTurn Http.Sample.loginPath) Sample.lostEnd
    [.clock 86400000, .command false .done]).shared.windows.length = 1 := by
  have hArrived : Sample.lostEnd.locals false = .arrived := rfl
  exact (rate_counter_stays_iff Http.Sample.loginPath 0
    [.command true .done, .command true (.failed false)] rfl hArrived).1.mpr
    Sample.lostEnd_isStuck [.clock 86400000, .command false .done]

end RateLimitMiddleware
end PropertyTax.Http
