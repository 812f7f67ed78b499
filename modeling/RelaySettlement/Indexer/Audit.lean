import Mathlib.Data.Set.Basic
import RelaySettlement.Js.Check
import RelaySettlement.Js.Number

/-!
# Replay ranges of the indexer's audit

The audit suggests blocks to index again: every suspicious block with the blocks around it, in
ranges that are merged where they touch and split to a maximal length.  Block numbers are
doubles, whose sums are exact up to `2 ^ 53`; behind it a loop may make no progress.
-/

namespace RelaySettlement.IndexerAudit

inductive IndexerAuditKind where
  | transferCoverage
  deriving DecidableEq

/-- `IndexerAuditKind | "multiple"`. -/
inductive Reason where
  | kind (kind : IndexerAuditKind)
  | multiple
  deriving DecidableEq

structure SuggestedReplayRange where
  findingCount : ℕ
  fromBlock : ℤ
  reason : Reason
  toBlock : ℤ

/-- The order of both sorts: by the first block, then by the last. -/
def SuggestedReplayRange.le (a b : SuggestedReplayRange) : Bool :=
  a.fromBlock < b.fromBlock ∨ a.fromBlock = b.fromBlock ∧ a.toBlock ≤ b.toBlock

/-- The double that a sum of whole numbers is rounded to, if it is finite. -/
def number (sum : ℤ) : Option ℤ := (Js.toDouble sum).map Int.floor

/-- One round of the merge.  The last range stands first. -/
def mergeStep : List SuggestedReplayRange → SuggestedReplayRange → List SuggestedReplayRange
  | [], range => [range]
  | last :: merged, range =>
      if (number (last.toBlock + 1)).all (range.fromBlock ≤ ·) then
        { toBlock := max last.toBlock range.toBlock
          findingCount := last.findingCount + range.findingCount
          reason := if last.reason ≠ range.reason then .multiple else last.reason
          fromBlock := last.fromBlock } :: merged
      else range :: last :: merged

/-- `Math.min(fromBlock + maxRange - 1, toBlock)`. -/
def cappedBlock (maxRange fromBlock toBlock : ℤ) : ℤ :=
  match (number (fromBlock + maxRange)).bind fun sum => number (sum - 1) with
  | some block => min block toBlock
  | none => toBlock

/-- The `while` loop over one range, from a block on, if it ends in fewer than `rounds`
rounds. -/
def split (maxRange : ℤ) (range : SuggestedReplayRange) :
    (rounds : ℕ) → (fromBlock : ℤ) → Option (List SuggestedReplayRange)
  | 0, _ => none
  | rounds + 1, fromBlock =>
      if fromBlock ≤ range.toBlock then do
        let toBlock := cappedBlock maxRange fromBlock range.toBlock
        let rest ← split maxRange range rounds (← number (toBlock + 1))
        return { range with fromBlock, toBlock } :: rest
      else some []

def mergeSuggestedReplayRanges (rounds : ℕ) (ranges : List SuggestedReplayRange) (maxRange : ℤ) :
    Option (List SuggestedReplayRange) := do
  let sorted := ranges.mergeSort SuggestedReplayRange.le
  let merged := (sorted.foldl mergeStep []).reverse
  let capped ← merged.mapM fun range => split (max 1 maxRange) range rounds range.fromBlock
  return capped.flatten

/-- The loops are those of `mergeSuggestedReplayRanges`.  They do not end for a range up to
infinity. -/
def buildSuggestedReplayRanges (rounds : ℕ) (blocks : List ℤ) (maxRange padding : ℤ)
    (reason : IndexerAuditKind) : Option (List SuggestedReplayRange) := do
  let padding := max 0 padding
  let ranges ← (blocks.filter (0 ≤ ·)).mapM fun block => do
    return {
      findingCount := 1
      fromBlock := max 0 (← number (block - padding))
      reason := .kind reason
      toBlock := ← number (block + padding) }
  mergeSuggestedReplayRanges rounds ranges maxRange

/-! ## Safe numbers -/

/-- A range of blocks that are safe integers. -/
structure SuggestedReplayRange.Safe (range : SuggestedReplayRange) : Prop where
  lower : -2 ^ 53 < range.fromBlock
  nonempty : range.fromBlock ≤ range.toBlock
  upper : range.toBlock < 2 ^ 53

theorem number_eq {sum : ℤ} (lower : -2 ^ 53 < sum) (upper : sum ≤ 2 ^ 53) :
    number sum = some sum := by
  rcases upper.lt_or_eq with below | rfl
  · rw [number, Js.toDouble_intCast (abs_lt.mpr ⟨lower, below⟩), Option.map_some, Int.floor_intCast]
  · decide +kernel

theorem le_number {sum rounded : ℤ} (large : 2 ^ 53 ≤ sum) (isRounded : number sum = some rounded) :
    2 ^ 53 ≤ rounded := by
  obtain ⟨double, isDouble, rfl⟩ := Option.map_eq_some_iff.mp isRounded
  exact Int.le_floor.mpr (by exact_mod_cast Js.le_toDouble (by exact_mod_cast large) isDouble)

theorem cappedBlock_eq {maxRange fromBlock toBlock : ℤ} (positive : 1 ≤ maxRange)
    (lower : -2 ^ 53 < fromBlock) (upper : toBlock < 2 ^ 53) :
    cappedBlock maxRange fromBlock toBlock = min (fromBlock + maxRange - 1) toBlock := by
  unfold cappedBlock
  rcases le_or_gt (fromBlock + maxRange) (2 ^ 53) with exact | large
  · rw [number_eq (by omega) exact, Option.bind_some, number_eq (by omega) (by omega)]
  · rw [min_eq_right (show toBlock ≤ fromBlock + maxRange - 1 by omega)]
    split
    next block isBlock =>
      obtain ⟨sum, isSum, isBlock⟩ := Option.bind_eq_some_iff.mp isBlock
      have largeSum := le_number large.le isSum
      -- one below `2 ^ 53` is exact again
      have last : 2 ^ 53 - 1 ≤ block := by
        rcases largeSum.eq_or_lt with rfl | beyond
        · rw [number_eq (by decide) (by decide)] at isBlock
          exact (Option.some.inj isBlock).le
        · have := le_number (by omega) isBlock
          omega
      omega
    next => rfl

/-! ## What ranges cover -/

/-- The blocks of ranges. -/
def covered (ranges : List SuggestedReplayRange) : Set ℤ :=
  {block | ∃ range ∈ ranges, range.fromBlock ≤ block ∧ block ≤ range.toBlock}

/-- Sorted, disjoint and non-empty ranges of at most `maxRange` blocks, or of one. -/
structure IsPlan (maxRange : ℤ) (ranges : List SuggestedReplayRange) : Prop where
  apart : ranges.Pairwise fun range next => range.toBlock < next.fromBlock
  nonempty : ∀ range ∈ ranges, range.fromBlock ≤ range.toBlock
  short : ∀ range ∈ ranges, range.toBlock - range.fromBlock + 1 ≤ max 1 maxRange

/-- A loop ends within a number of rounds, with a plan for some blocks. -/
def Plans (maxRange : ℤ) (bound : ℕ) (loop : ℕ → Option (List SuggestedReplayRange))
    (blocks : Set ℤ) : Prop :=
  ∃ plan, (∀ rounds, bound < rounds → loop rounds = some plan) ∧ IsPlan maxRange plan ∧
    covered plan = blocks

variable {range : SuggestedReplayRange} {ranges merged : List SuggestedReplayRange}
variable {maxRange : ℤ}

@[simp] theorem covered_nil : covered [] = ∅ := by simp [covered]

@[simp] theorem mem_covered_cons {block : ℤ} :
    block ∈ covered (range :: ranges) ↔
      (range.fromBlock ≤ block ∧ block ≤ range.toBlock) ∨ block ∈ covered ranges := by
  simp [covered]

theorem mem_covered_singleton {block : ℤ} :
    block ∈ covered [range] ↔ range.fromBlock ≤ block ∧ block ≤ range.toBlock := by
  simp [covered]

theorem covered_congr (same : ∀ range, range ∈ ranges ↔ range ∈ merged) :
    covered ranges = covered merged := by
  simp only [covered, same]

theorem mem_covered_append {block : ℤ} :
    block ∈ covered (ranges ++ merged) ↔ block ∈ covered ranges ∨ block ∈ covered merged := by
  simp [covered, or_and_right, exists_or]

theorem isPlan_nil : IsPlan maxRange [] := ⟨List.Pairwise.nil, by simp, by simp⟩

theorem IsPlan.append {plan later : List SuggestedReplayRange} (here : IsPlan maxRange plan)
    (there : IsPlan maxRange later)
    (before : ∀ block ∈ covered plan, ∀ next ∈ covered later, block < next) :
    IsPlan maxRange (plan ++ later) where
  apart := by
    refine List.pairwise_append.mpr ⟨here.apart, there.apart, ?_⟩
    intro range member next isNext
    exact before _ ⟨range, member, here.nonempty range member, le_rfl⟩ _
      ⟨next, isNext, le_rfl, there.nonempty next isNext⟩
  nonempty := List.forall_mem_append.mpr ⟨here.nonempty, there.nonempty⟩
  short := List.forall_mem_append.mpr ⟨here.short, there.short⟩

/-! ## The merge -/

/-- The merged ranges, the last first, when the next range begins at `next` or behind it. -/
structure Merging (next : ℤ) (merged : List SuggestedReplayRange) : Prop where
  apart : merged.Pairwise fun range before => before.toBlock < range.fromBlock
  behind : ∀ range ∈ merged, range.fromBlock ≤ next
  safe : ∀ range ∈ merged, range.Safe

theorem Merging.step (merging : Merging range.fromBlock merged) (safe : range.Safe) :
    Merging range.fromBlock (mergeStep merged range) ∧
      covered (mergeStep merged range) = covered (range :: merged) := by
  cases merged with
  | nil => exact ⟨⟨by simp [mergeStep], by simp [mergeStep], by simpa [mergeStep] using safe⟩, rfl⟩
  | cons last merged =>
      have first := merging.behind last List.mem_cons_self
      obtain ⟨gap, apart⟩ := List.pairwise_cons.mp merging.apart
      obtain ⟨⟨lower, nonempty, upper⟩, others⟩ := List.forall_mem_cons.mp merging.safe
      have above := safe.upper
      simp only [mergeStep, number_eq (show -2 ^ 53 < last.toBlock + 1 by omega) (by omega),
        Option.all_some, decide_eq_true_eq]
      split
      next touches =>
        refine ⟨⟨List.pairwise_cons.mpr ⟨gap, apart⟩, ?_, ?_⟩, ?_⟩
        · simpa using merging.behind
        · exact List.forall_mem_cons.mpr ⟨⟨lower, by simp only; omega, by simp only; omega⟩, others⟩
        · ext block
          simp only [mem_covered_cons]
          rw [← or_assoc]
          apply or_congr_left
          omega
      next ends =>
        refine ⟨⟨List.pairwise_cons.mpr ⟨?_, merging.apart⟩, ?_,
          List.forall_mem_cons.mpr ⟨safe, merging.safe⟩⟩, rfl⟩
        · intro before member
          rcases List.mem_cons.mp member with rfl | member
          · omega
          · have := gap before member
            omega
        · simpa using merging.behind

theorem foldl_mergeStep {next : ℤ}
    (sorted : ranges.Pairwise fun range next => range.fromBlock ≤ next.fromBlock)
    (safe : ∀ range ∈ ranges, range.Safe) (behind : ∀ range ∈ ranges, next ≤ range.fromBlock)
    (merging : Merging next merged) :
    (∃ last, Merging last (ranges.foldl mergeStep merged)) ∧
      covered (ranges.foldl mergeStep merged) = covered (merged ++ ranges) := by
  induction ranges generalizing merged next with
  | nil => exact ⟨⟨next, merging⟩, by rw [List.foldl_nil, List.append_nil]⟩
  | cons range ranges ih =>
      obtain ⟨later, sorted⟩ := List.pairwise_cons.mp sorted
      obtain ⟨rangeSafe, safe⟩ := List.forall_mem_cons.mp safe
      have here := behind range List.mem_cons_self
      obtain ⟨merging, step⟩ := Merging.step
        ⟨merging.apart, fun before member => (merging.behind before member).trans here,
          merging.safe⟩ rangeSafe
      obtain ⟨last, same⟩ := ih sorted safe later merging
      refine ⟨last, same.trans ?_⟩
      ext block
      simp only [mem_covered_append, step, mem_covered_cons]
      tauto

/-! ## The pieces -/

theorem split_plans {fromBlock : ℤ} (upper : range.toBlock < 2 ^ 53)
    (lower : -2 ^ 53 < fromBlock) :
    Plans maxRange (range.toBlock + 1 - fromBlock).toNat
      (fun rounds => split (max 1 maxRange) range rounds fromBlock)
      {block | fromBlock ≤ block ∧ block ≤ range.toBlock} := by
  -- every round begins behind the last, so that the blocks that are left become fewer
  induction left : (range.toBlock + 1 - fromBlock).toNat using Nat.strong_induction_on
    generalizing fromBlock with
  | _ left ih =>
  rcases le_or_gt fromBlock range.toBlock with inside | outside
  · have capped := cappedBlock_eq (le_max_left 1 maxRange) lower upper
    set toBlock := cappedBlock (max 1 maxRange) fromBlock range.toBlock with isTo
    obtain ⟨plan, ends, isPlan, same⟩ := ih _ (by omega) (by omega) (Eq.refl
      (range.toBlock + 1 - (toBlock + 1)).toNat)
    have piece : IsPlan maxRange [{ range with fromBlock, toBlock }] :=
      ⟨List.pairwise_singleton _ _, by simp only [List.forall_mem_singleton]; omega,
        by simp only [List.forall_mem_singleton]; omega⟩
    refine ⟨_, ?_, piece.append isPlan ?_, ?_⟩
    · rintro (_ | rounds) enough
      · omega
      · beta_reduce
        rw [split, if_pos inside]
        simp only [← isTo, number_eq (show -2 ^ 53 < toBlock + 1 by omega) (by omega),
          Option.bind_eq_bind, Option.bind_some, ends rounds (by omega)]
        rfl
    · intro block here next there
      rw [same] at there
      exact (mem_covered_singleton.mp here).2.trans_lt (Int.lt_of_add_one_le there.1)
    · ext block
      rw [mem_covered_append, same, mem_covered_singleton]
      simp only [Set.mem_ofPred_eq]
      omega
  · refine ⟨[], ?_, isPlan_nil, ?_⟩
    · rintro (_ | rounds) enough
      · omega
      · beta_reduce
        rw [split, if_neg (by omega)]
    · ext block
      simp only [covered_nil, Set.mem_empty_iff_false, Set.mem_ofPred_eq, false_iff]
      omega

theorem mapM_split_plans (maxRange : ℤ) (safe : ∀ range ∈ merged, range.Safe)
    (apart : merged.Pairwise fun range next => range.toBlock < next.fromBlock) :
    Plans maxRange (2 ^ 54) (fun rounds => (merged.mapM fun range =>
      split (max 1 maxRange) range rounds range.fromBlock).map List.flatten) (covered merged) := by
  induction merged with
  | nil => exact ⟨[], fun _ _ => rfl, isPlan_nil, rfl⟩
  | cons range merged ih =>
      obtain ⟨gap, apart⟩ := List.pairwise_cons.mp apart
      obtain ⟨⟨lower, nonempty, upper⟩, safe⟩ := List.forall_mem_cons.mp safe
      obtain ⟨pieces, ends, isPlan, same⟩ := split_plans upper lower
      obtain ⟨plan, ends', isPlan', same'⟩ := ih safe apart
      refine ⟨pieces ++ plan, ?_, isPlan.append isPlan' ?_, ?_⟩
      · intro rounds enough
        obtain ⟨lists, mapped, rfl⟩ := Option.map_eq_some_iff.mp (ends' rounds enough)
        have first := ends rounds (by omega)
        simp [first, mapped]
      · rw [same, same']
        rintro block inside next ⟨later, member, begins, _⟩
        exact (inside.2.trans_lt (gap later member)).trans_le begins
      · ext block
        rw [mem_covered_append, same, same', mem_covered_cons]
        rfl

theorem mergeSuggestedReplayRanges_plans (maxRange : ℤ) (safe : ∀ range ∈ ranges, range.Safe) :
    Plans maxRange (2 ^ 54) (fun rounds => mergeSuggestedReplayRanges rounds ranges maxRange)
      (covered ranges) := by
  have sorted : (ranges.mergeSort SuggestedReplayRange.le).Pairwise
      fun a b => a.fromBlock ≤ b.fromBlock := by
    apply (List.pairwise_mergeSort _ _ ranges).imp
    · simp only [SuggestedReplayRange.le, decide_eq_true_eq]
      omega
    · simp only [SuggestedReplayRange.le, decide_eq_true_eq]
      omega
    · simp only [SuggestedReplayRange.le, Bool.or_eq_true, decide_eq_true_eq]
      omega
  have safe : ∀ range ∈ ranges.mergeSort SuggestedReplayRange.le, range.Safe :=
    fun range member => safe range (List.mem_mergeSort.mp member)
  obtain ⟨⟨_, merging⟩, same⟩ := foldl_mergeStep sorted safe
    (fun range member => (safe range member).lower.le) ⟨List.Pairwise.nil, by simp, by simp⟩
  obtain ⟨plan, ends, isPlan, same'⟩ := mapM_split_plans maxRange
    (fun range member => merging.safe range (List.mem_reverse.mp member))
    (List.pairwise_reverse.mpr merging.apart)
  refine ⟨plan, ?_, isPlan, ?_⟩
  · intro rounds enough
    obtain ⟨lists, mapped, rfl⟩ := Option.map_eq_some_iff.mp (ends rounds enough)
    simp [mergeSuggestedReplayRanges, mapped]
  · rw [same', covered_congr fun _ => List.mem_reverse, same, List.nil_append,
      covered_congr fun _ => List.mem_mergeSort]

/-- The replay planner covers exactly the suspicious blocks with their padding, and the merge of
plans the blocks of its ranges, for blocks that are safe integers. -/
theorem replay_plan_covers_exactly :
    (∀ (blocks : List ℕ) (maxRange : ℤ) (padding : ℕ) (reason : IndexerAuditKind),
      (∀ block ∈ blocks, block + padding < 2 ^ 53) →
      Plans maxRange (2 ^ 54) (fun rounds =>
          buildSuggestedReplayRanges rounds (blocks.map (↑)) maxRange padding reason)
        {n | ∃ block ∈ blocks, max 0 ((block : ℤ) - padding) ≤ n ∧ n ≤ block + padding}) ∧
    ∀ (ranges : List SuggestedReplayRange) (maxRange : ℤ), (∀ range ∈ ranges, range.Safe) →
      Plans maxRange (2 ^ 54) (fun rounds => mergeSuggestedReplayRanges rounds ranges maxRange)
        (covered ranges) := by
  refine ⟨?_, fun _ maxRange safe => mergeSuggestedReplayRanges_plans maxRange safe⟩
  intro blocks maxRange padding reason small
  let rangeOf (block : ℕ) : SuggestedReplayRange :=
    { findingCount := 1
      fromBlock := max 0 (block - padding)
      reason := .kind reason
      toBlock := block + padding }
  have safe : ∀ range ∈ blocks.map rangeOf, range.Safe := by
    intro range member
    obtain ⟨block, isBlock, rfl⟩ := List.mem_map.mp member
    have := small block isBlock
    constructor <;> simp only [rangeOf] <;> omega
  obtain ⟨plan, ends, isPlan, same⟩ := mergeSuggestedReplayRanges_plans maxRange safe
  refine ⟨plan, ?_, isPlan, same.trans ?_⟩
  · intro rounds enough
    beta_reduce
    have mapped : ((blocks.map ((↑) : ℕ → ℤ)).filter (0 ≤ ·)).mapM (fun block => do
        return {
          findingCount := 1
          fromBlock := max 0 (← number (block - padding))
          reason := Reason.kind reason
          toBlock := ← number (block + padding) }) = some (blocks.map rangeOf) := by
      rw [List.filter_eq_self.mpr (by simp), Js.mapM_eq_some_iff, List.forall₂_map_left_iff,
        List.forall₂_map_right_iff, List.forall₂_same]
      intro block member
      have := small block member
      rw [number_eq (by omega) (by omega), number_eq (by omega) (by omega)]
      rfl
    rw [← ends rounds enough, buildSuggestedReplayRanges, max_eq_right (by omega), mapped]
    rfl
  · ext block
    simp [covered, rangeOf, and_assoc]

theorem replay_plan_covers_exactly_sample :
    Plans 4 (2 ^ 54)
        (fun rounds => buildSuggestedReplayRanges rounds [12, 5, 7] 4 1 .transferCoverage)
        {n | ∃ block ∈ [12, 5, 7], max 0 ((block : ℤ) - 1) ≤ n ∧ n ≤ block + 1} ∧
      Plans 4 (2 ^ 54)
        (fun rounds => mergeSuggestedReplayRanges rounds [⟨1, 8, .multiple, 30⟩] 4)
        (covered [⟨1, 8, .multiple, 30⟩]) := by
  constructor
  · simpa using replay_plan_covers_exactly.1 [12, 5, 7] 4 1 .transferCoverage (by decide)
  · exact replay_plan_covers_exactly.2 [⟨1, 8, .multiple, 30⟩] 4
      (List.forall_mem_singleton.mpr ⟨by decide, by decide, by decide⟩)

/-- The block behind `2 ^ 53` is rounded back to it. -/
theorem number_next : number (2 ^ 53 + 1) = some (2 ^ 53) := by
  decide +kernel

theorem split_never_ends (range : SuggestedReplayRange) (isLast : range.toBlock = 2 ^ 53)
    (rounds : ℕ) : split 10 range rounds (2 ^ 53) = none := by
  have capped : cappedBlock 10 (2 ^ 53) (2 ^ 53) = 2 ^ 53 := by decide +kernel
  induction rounds with
  | zero => rfl
  | succ rounds ih =>
      rw [split, isLast, if_pos le_rfl]
      simp only [capped, number_next, Option.bind_eq_bind, Option.bind_some, ih, Option.bind_none]

/-- For the block `2 ^ 53` the loop makes no progress. -/
theorem replay_plan_never_ends :
    number (2 ^ 53 + 1) = some (2 ^ 53) ∧
      ∀ rounds, buildSuggestedReplayRanges rounds [2 ^ 53] 10 0 .transferCoverage = none := by
  refine ⟨number_next, ?_⟩
  intro rounds
  let range : SuggestedReplayRange := ⟨1, 2 ^ 53, .kind .transferCoverage, 2 ^ 53⟩
  have exact : number (2 ^ 53) = some (2 ^ 53) := number_eq (by decide) le_rfl
  have built : buildSuggestedReplayRanges rounds [2 ^ 53] 10 0 .transferCoverage =
      mergeSuggestedReplayRanges rounds [range] 10 := by
    rw [buildSuggestedReplayRanges, max_self, List.filter_cons_of_pos (by decide), List.filter_nil,
      List.mapM_cons, List.mapM_nil, sub_zero, add_zero, exact]
    rfl
  have unfinished : split (max 1 10) range rounds range.fromBlock = none :=
    split_never_ends range rfl rounds
  rw [built, mergeSuggestedReplayRanges, List.mergeSort_singleton]
  simp only [List.foldl_cons, List.foldl_nil, mergeStep, List.reverse_singleton, List.mapM_cons,
    unfinished, Option.bind_eq_bind, Option.bind_none]

end RelaySettlement.IndexerAudit
