import RelaySettlement.Multisig.Core
import Mathlib.Data.Finset.Card

/-!
# What a signature of the oracle multisig proves

The array and the mapping of signers agree after every run of management calls.  The only
thing that keeps a signer from being counted twice is the order of the blocks, so a valid
signature is characterised by the list of signers its blocks recover to.
-/

open Evm

namespace RelaySettlement.OracleMultisig

/-! ## The signers -/

/-- The array lists every signer once, and the zero address is none. -/
structure Roster (multisig : OracleMultisig) : Prop where
  nodup : multisig.signers.Nodup
  nonzero : 0 ∉ multisig.signers
  member : ∀ account, account ∈ multisig.signers ↔ multisig.isSigner account = true

/-- A roster whose threshold can be met and is never met by nothing. -/
structure WellFormed (multisig : OracleMultisig) : Prop extends Roster multisig where
  positive : 1 ≤ multisig.threshold.toNat
  reachable : multisig.threshold.toNat ≤ multisig.signers.length

variable {multisig next : OracleMultisig}

variable {signer sender : Address} {recovered : List Address} {blocks : List Bytes}

theorem pushSigner_roster (roster : Roster multisig) (ok : pushSigner signer multisig = .ok next) :
    Roster next ∧ next.signers = multisig.signers ++ [signer] ∧
      next.threshold = multisig.threshold := by
  simp only [pushSigner, bind_eq_ok, require_eq_ok, pure_eq_ok] at ok
  obtain ⟨_, nonzero, _, fresh, rfl⟩ := ok
  have absent : signer ∉ multisig.signers := by
    rw [roster.member, fresh]
    exact Bool.false_ne_true
  refine ⟨⟨?_, ?_, ?_⟩, rfl, rfl⟩
  · exact List.nodup_append_comm.mp (List.nodup_cons.mpr ⟨absent, roster.nodup⟩)
  · intro zero
    rcases List.mem_append.mp zero with zero | zero
    · exact roster.nonzero zero
    · exact nonzero (List.mem_singleton.mp zero).symm
  · intro account
    rw [List.mem_append, List.mem_singleton, roster.member]
    simp only [set_apply]
    split <;> simp [*]

theorem pushSigners_roster {signers : List Address} (roster : Roster multisig)
    (ok : signers.foldlM (fun multisig signer => pushSigner signer multisig) multisig =
      .ok next) :
    Roster next ∧ next.signers = multisig.signers ++ signers := by
  induction signers generalizing multisig with
  | nil =>
      cases ok
      exact ⟨roster, (List.append_nil _).symm⟩
  | cons signer signers ih =>
      rw [List.foldlM_cons] at ok
      obtain ⟨middle, pushed, ok⟩ := bind_eq_ok.mp ok
      obtain ⟨roster, listed, _⟩ := pushSigner_roster roster pushed
      obtain ⟨roster, rest⟩ := ih roster ok
      exact ⟨roster, by rw [rest, listed, List.append_assoc, List.singleton_append]⟩

theorem create_wellFormed {owner : Address} {signers : List Address} {threshold : U256}
    (ok : create owner signers threshold = .ok next) : WellFormed next := by
  simp only [create, bind_eq_ok, require_eq_ok, pure_eq_ok] at ok
  obtain ⟨_, _, _, _, _, ⟨nonzero, reachable⟩, multisig, pushed, rfl⟩ := ok
  have none : Roster ⟨owner, fun _ => false, [], 0⟩ :=
    ⟨List.nodup_nil, List.not_mem_nil, fun account => by simp⟩
  obtain ⟨roster, listed⟩ := pushSigners_roster none pushed
  refine ⟨⟨roster.nodup, roster.nonzero, roster.member⟩, toNat_pos nonzero, ?_⟩
  rw [listed, List.nil_append]
  exact reachable

theorem addSigner_wellFormed (sound : WellFormed multisig)
    (ok : addSigner sender signer multisig = .ok next) : WellFormed next := by
  simp only [addSigner, bind_eq_ok] at ok
  obtain ⟨_, _, pushed⟩ := ok
  obtain ⟨roster, listed, same⟩ := pushSigner_roster sound.toRoster pushed
  refine ⟨roster, ?_, ?_⟩
  · rw [same]
    exact sound.positive
  · rw [same, listed, List.length_append]
    exact Nat.le_add_right_of_le sound.reachable

/-- Swapping the last signer into the gap removes exactly the one signer, which the
array holds once. -/
theorem removeSigner_wellFormed (sound : WellFormed multisig)
    (ok : removeSigner sender signer multisig = .ok next) : WellFormed next := by
  simp only [removeSigner, bind_eq_ok, require_eq_ok, pure_eq_ok] at ok
  obtain ⟨_, _, _, present, _, _, _, enough, rfl⟩ := ok
  have erased := swapRemove_perm multisig.signers signer
  have listed : signer ∈ multisig.signers := (sound.member signer).mpr present
  refine ⟨⟨?_, ?_, ?_⟩, sound.positive, ?_⟩
  · exact erased.nodup_iff.mpr (sound.nodup.erase signer)
  · intro zero
    exact sound.nonzero (List.mem_of_mem_erase (erased.mem_iff.mp zero))
  · intro account
    rw [erased.mem_iff, sound.nodup.mem_erase_iff, sound.member]
    simp only [set_apply]
    split <;> simp [*]
  · rw [erased.length_eq, List.length_erase_of_mem listed]
    exact enough

theorem setThreshold_wellFormed {threshold : U256} (sound : WellFormed multisig)
    (ok : setThreshold sender threshold multisig = .ok next) : WellFormed next := by
  simp only [setThreshold, bind_eq_ok, require_eq_ok, pure_eq_ok] at ok
  obtain ⟨_, _, _, ⟨nonzero, reachable⟩, rfl⟩ := ok
  exact ⟨⟨sound.nodup, sound.nonzero, sound.member⟩, toNat_pos nonzero, reachable⟩

theorem step_wellFormed (call : Call) (multisig next : OracleMultisig)
    (sound : WellFormed multisig) (ok : step call multisig = .ok next) :
    WellFormed next := by
  cases call with
  | addSigner sender signer => exact addSigner_wellFormed sound ok
  | removeSigner sender signer => exact removeSigner_wellFormed sound ok
  | setThreshold sender threshold => exact setThreshold_wellFormed sound ok
  | setOwner owner =>
      cases ok
      exact ⟨⟨sound.nodup, sound.nonzero, sound.member⟩, sound.positive, sound.reachable⟩

/-! ## The blocks -/

/-- Blocks that recover to strictly increasing addresses, all of them signers. -/
def Certifies (tryRecover : TryRecover) (multisig : OracleMultisig) (digest : Bytes32)
    (blocks : List Bytes) (recovered : List Address) : Prop :=
  blocks.mapM (recoverBlock tryRecover digest) = some recovered ∧
    recovered.Pairwise (· < ·) ∧ ∀ signer ∈ recovered, multisig.isSigner signer = true

/-- The blocks `_validateSignatures` looks at. -/
def firstBlocks (multisig : OracleMultisig) (signature : Bytes) : List Bytes :=
  (List.range multisig.threshold.toNat).map (signatureBlock signature)

variable {tryRecover : TryRecover} {digest : Bytes32} {signature : Bytes}

@[simp] theorem certifies_nil :
    Certifies tryRecover multisig digest [] recovered ↔ recovered = [] := by
  simp only [Certifies, List.mapM_nil, Option.pure_def, Option.some.injEq]
  constructor
  · intro ⟨empty, _⟩
    exact empty.symm
  · rintro rfl
    exact ⟨rfl, List.Pairwise.nil, List.forall_mem_nil _⟩

theorem certifies_cons {block : Bytes} :
    Certifies tryRecover multisig digest (block :: blocks) recovered ↔
      ∃ signer rest, recovered = signer :: rest ∧
        recoverBlock tryRecover digest block = some signer ∧
        multisig.isSigner signer = true ∧ (∀ later ∈ rest, signer < later) ∧
        Certifies tryRecover multisig digest blocks rest := by
  simp only [Certifies, List.mapM_cons, Option.bind_eq_bind, Option.pure_def,
    Option.bind_eq_some_iff, Option.some.injEq]
  constructor
  · rintro ⟨⟨signer, first, rest, others, rfl⟩, increasing, signers⟩
    rw [List.pairwise_cons] at increasing
    rw [List.forall_mem_cons] at signers
    exact ⟨signer, rest, rfl, first, signers.1, increasing.1, others, increasing.2, signers.2⟩
  · rintro ⟨signer, rest, rfl, first, isSigner, below, others, increasing, signers⟩
    exact ⟨⟨signer, first, rest, others, rfl⟩, List.pairwise_cons.mpr ⟨below, increasing⟩,
      List.forall_mem_cons.mpr ⟨isSigner, signers⟩⟩

/-- The loop accepts when the remaining blocks certify and continue the order. -/
theorem validateBlocks_iff {indices : List ℕ} {lastSigner : Address} :
    validateBlocks tryRecover multisig digest signature indices lastSigner = true ↔
      ∃ recovered, Certifies tryRecover multisig digest
        (indices.map (signatureBlock signature)) recovered ∧
        ∀ signer ∈ recovered, lastSigner < signer := by
  induction indices generalizing lastSigner with
  | nil => simp [validateBlocks]
  | cons i rest ih =>
      rw [validateBlocks, List.map_cons]
      simp only [certifies_cons]
      cases block : recoverBlock tryRecover digest (signatureBlock signature i) with
      | none => simp
      | some signer =>
          simp only [Bool.if_false_left, Bool.and_eq_true, Bool.not_eq_true',
            decide_eq_false_iff_not, BitVec.not_le, Bool.not_eq_false, ih]
          constructor
          · rintro ⟨later, isSigner, recovered, certifies, above⟩
            refine ⟨signer :: recovered,
              ⟨signer, recovered, rfl, rfl, isSigner, above, certifies⟩, ?_⟩
            rw [List.forall_mem_cons]
            exact ⟨later, fun other member => BitVec.lt_trans later (above other member)⟩
          · rintro ⟨_, ⟨_, recovered, rfl, ⟨⟩, isSigner, above, certifies⟩, later⟩
            rw [List.forall_mem_cons] at later
            exact ⟨later.1, isSigner, recovered, certifies, above⟩

/-- A signature is valid when its first `threshold` blocks are there and certify.  The
loop starts from the zero address, which is no signer. -/
theorem isValidSignature_iff (roster : Roster multisig) :
    isValidSignature tryRecover multisig digest signature = magicValue ↔
      multisig.threshold.toNat ≤ signature.length / blockLength ∧
        ∃ recovered, Certifies tryRecover multisig digest (firstBlocks multisig signature)
          recovered := by
  have accepted : isValidSignature tryRecover multisig digest signature = magicValue ↔
      validateSignatures tryRecover multisig digest signature = true := by
    rw [isValidSignature]
    cases validateSignatures tryRecover multisig digest signature <;> decide
  rw [accepted, validateSignatures]
  split
  next short =>
    constructor
    · intro impossible
      cases impossible
    · rintro ⟨enough, _⟩
      exact absurd enough (Nat.not_le.mpr short)
  next enough =>
    rw [validateBlocks_iff]
    constructor
    · rintro ⟨recovered, certifies, _⟩
      exact ⟨Nat.not_lt.mp enough, recovered, certifies⟩
    · rintro ⟨_, recovered, certifies⟩
      refine ⟨recovered, certifies, ?_⟩
      intro signer member
      refine BitVec.lt_def.mpr (toNat_pos ?_)
      rintro rfl
      exact roster.nonzero ((roster.member 0).mpr (certifies.2.2 0 member))

/-- Certifying blocks come from as many different signers as there are blocks. -/
theorem Certifies.distinct (certifies : Certifies tryRecover multisig digest blocks recovered) :
    recovered.length = blocks.length ∧ recovered.Nodup ∧
      ∀ signer ∈ recovered, ∃ block ∈ blocks,
        recoverBlock tryRecover digest block = some signer := by
  induction blocks generalizing recovered with
  | nil =>
      rw [certifies_nil] at certifies
      subst certifies
      exact ⟨rfl, List.nodup_nil, List.forall_mem_nil _⟩
  | cons block blocks ih =>
      obtain ⟨signer, rest, rfl, first, _, above, others⟩ := certifies_cons.mp certifies
      obtain ⟨length, nodup, recovers⟩ := ih others
      refine ⟨congrArg Nat.succ length, List.nodup_cons.mpr ⟨?_, nodup⟩, ?_⟩
      · intro again
        exact BitVec.lt_irrefl signer (above signer again)
      · rw [List.forall_mem_cons]
        refine ⟨⟨block, List.mem_cons_self .., first⟩, ?_⟩
        intro other member
        obtain ⟨block', member', recovers⟩ := recovers other member
        exact ⟨block', List.mem_cons_of_mem _ member', recovers⟩

/-- Cutting a concatenation of whole blocks gives the blocks back, whatever follows. -/
theorem signatureBlock_flatten {blocks : List Bytes}
    (whole : ∀ block ∈ blocks, block.length = blockLength) (rest : Bytes) :
    (List.range blocks.length).map (signatureBlock (blocks.flatten ++ rest)) = blocks := by
  induction blocks with
  | nil => rfl
  | cons block blocks ih =>
      rw [List.forall_mem_cons] at whole
      obtain ⟨here, later⟩ := whole
      have first : signatureBlock ((block :: blocks).flatten ++ rest) 0 = block := by
        rw [signatureBlock, ← here]
        simp
      have shifted : ∀ i, signatureBlock ((block :: blocks).flatten ++ rest) (i + 1) =
          signatureBlock (blocks.flatten ++ rest) i := by
        intro i
        rw [signatureBlock, signatureBlock, Nat.mul_succ, Nat.add_comm, ← List.drop_drop,
          List.flatten_cons, List.append_assoc, List.drop_left' here]
      rw [List.length_cons, List.range_succ_eq_map, List.map_cons, List.map_map, first]
      congr 1
      exact (List.map_congr_left fun i _ => shifted i).trans (ih later)

theorem length_flatten_blocks (whole : ∀ block ∈ blocks, block.length = blockLength) :
    blocks.flatten.length = blocks.length * blockLength := by
  rw [List.length_flatten, List.map_congr_left whole, List.map_const', List.sum_replicate_nat]

/-- Blocks that certify are accepted in front of any bytes. -/
theorem isValidSignature_flatten (roster : Roster multisig)
    (enough : blocks.length = multisig.threshold.toNat)
    (whole : ∀ block ∈ blocks, block.length = blockLength)
    (certifies : Certifies tryRecover multisig digest blocks recovered) (rest : Bytes) :
    isValidSignature tryRecover multisig digest (blocks.flatten ++ rest) = magicValue := by
  rw [isValidSignature_iff roster]
  constructor
  · rw [← enough, List.length_append, length_flatten_blocks whole,
      Nat.le_div_iff_mul_le (by decide)]
    exact Nat.le_add_right _ _
  · refine ⟨recovered, ?_⟩
    rw [firstBlocks, ← enough, signatureBlock_flatten whole]
    exact certifies

/-- Signatures of signers in the order of their addresses certify. -/
theorem certifies_sorted {signatures : List (Address × Bytes)}
    (signed : ∀ signature ∈ signatures, multisig.isSigner signature.1 = true ∧
      recoverBlock tryRecover digest signature.2 = some signature.1)
    (sorted : signatures.Pairwise fun signature later => signature.1 < later.1) :
    Certifies tryRecover multisig digest (signatures.map Prod.snd)
      (signatures.map Prod.fst) := by
  induction signatures with
  | nil => exact certifies_nil.mpr rfl
  | cons signature signatures ih =>
      rw [List.forall_mem_cons] at signed
      rw [List.pairwise_cons] at sorted
      refine certifies_cons.mpr ⟨signature.1, signatures.map Prod.fst, rfl, signed.1.2,
        signed.1.1, ?_, ih signed.2 sorted.2⟩
      intro later member
      obtain ⟨signature', member', rfl⟩ := List.mem_map.mp member
      exact sorted.1 signature' member'

/-- A valid signature holds blocks of `threshold` different signers. -/
theorem isValidSignature_signers (roster : Roster multisig)
    (valid : isValidSignature tryRecover multisig digest signature = magicValue) :
    ∃ signed : Finset Address, multisig.threshold.toNat ≤ signed.card ∧
      ∀ signer ∈ signed, multisig.isSigner signer = true ∧
        ∃ block ∈ firstBlocks multisig signature,
          recoverBlock tryRecover digest block = some signer := by
  obtain ⟨_, recovered, certifies⟩ := (isValidSignature_iff roster).mp valid
  obtain ⟨length, nodup, recovers⟩ := certifies.distinct
  refine ⟨⟨recovered, nodup⟩, ?_, ?_⟩
  · change multisig.threshold.toNat ≤ recovered.length
    rw [length, firstBlocks, List.length_map, List.length_range]
  · intro signer member
    exact ⟨certifies.2.2 signer member, recovers signer member⟩

/-- After a deployment and any run of management calls the array and the mapping of signers
agree, without duplicates and without the zero address, and the threshold is between one and
their number.  A signature is then valid exactly when its first `threshold` blocks of 65
bytes are there and recover to strictly increasing signers.  So every valid signature was
made by `threshold` different signers, and their signatures in the order of their addresses
are valid whatever bytes follow. -/
theorem multisig_quorum (tryRecover : TryRecover) (owner : Address) (signers : List Address)
    (threshold : U256) (deployed : OracleMultisig)
    (created : create owner signers threshold = .ok deployed) (calls : List Call)
    (multisig : OracleMultisig) (reached : run step calls deployed = multisig) :
    (multisig.signers.Nodup ∧ 0 ∉ multisig.signers ∧
      (∀ account, account ∈ multisig.signers ↔ multisig.isSigner account = true) ∧
      1 ≤ multisig.threshold.toNat ∧
      multisig.threshold.toNat ≤ multisig.signers.length) ∧
    (∀ digest signature,
      isValidSignature tryRecover multisig digest signature = magicValue ↔
        multisig.threshold.toNat ≤ signature.length / 65 ∧
        ∃ recovered,
          (firstBlocks multisig signature).mapM (recoverBlock tryRecover digest) =
            some recovered ∧
          recovered.Pairwise (· < ·) ∧ ∀ signer ∈ recovered, signer ∈ multisig.signers) ∧
    (∀ digest signature,
      isValidSignature tryRecover multisig digest signature = magicValue →
        ∃ signed : Finset Address, multisig.threshold.toNat ≤ signed.card ∧
          ∀ signer ∈ signed, signer ∈ multisig.signers ∧
            ∃ block ∈ firstBlocks multisig signature,
              recoverBlock tryRecover digest block = some signer) ∧
    ∀ digest (signatures : List (Address × Bytes)) (rest : Bytes),
      signatures.length = multisig.threshold.toNat →
      (∀ signed ∈ signatures, signed.1 ∈ multisig.signers ∧ signed.2.length = 65 ∧
        recoverBlock tryRecover digest signed.2 = some signed.1) →
      signatures.Pairwise (fun signed later => signed.1 < later.1) →
      isValidSignature tryRecover multisig digest
        ((signatures.map Prod.snd).flatten ++ rest) = magicValue := by
  subst reached
  have sound : WellFormed (run step calls deployed) :=
    run_invariant WellFormed step_wellFormed calls deployed (create_wellFormed created)
  refine ⟨⟨sound.nodup, sound.nonzero, sound.member, sound.positive, sound.reachable⟩,
    ?_, ?_, ?_⟩
  · intro digest signature
    simp only [sound.member]
    exact isValidSignature_iff sound.toRoster
  · intro digest signature valid
    simp only [sound.member]
    exact isValidSignature_signers sound.toRoster valid
  · intro digest signatures rest enough signed sorted
    have recovers : ∀ signature ∈ signatures,
        (run step calls deployed).isSigner signature.1 = true ∧
          recoverBlock tryRecover digest signature.2 = some signature.1 := by
      intro signature member
      obtain ⟨isSigner, _, recovers⟩ := signed signature member
      exact ⟨(sound.member signature.1).mp isSigner, recovers⟩
    refine isValidSignature_flatten sound.toRoster ?_ ?_ (certifies_sorted recovers sorted) rest
    · rw [List.length_map]
      exact enough
    · intro block member
      obtain ⟨signature, member', rfl⟩ := List.mem_map.mp member
      exact (signed signature member').2.1

namespace SampleMultisig

/-- A recovery that reads the signer off `v` and fails on zero. -/
def recoverV : TryRecover := fun _ v _ _ =>
  if v = 0 then none else some (BitVec.ofNat 160 v.toNat)

/-- A signature of an account under `recoverV`. -/
def sign (account : UInt8) : Bytes := List.replicate 64 0 ++ [account]

/-- Of the signers 3, 9, 5 and 7 the owner removes 9, so that 7 takes its place. -/
def calls : List Call := [.removeSigner 1 9, .addSigner 2 11, .setThreshold 1 3]

end SampleMultisig

open SampleMultisig in
theorem multisig_quorum_sample :
    ∃ deployed, create 1 [3, 9, 5, 7] 2 = .ok deployed ∧
      (run step SampleMultisig.calls deployed).signers = [3, 7, 5] ∧
      isValidSignature recoverV (run step SampleMultisig.calls deployed) 0
        (([(3, sign 3), (5, sign 5), (7, sign 7)].map Prod.snd).flatten ++ [1, 2]) =
        magicValue :=
  ⟨_, rfl, by decide +kernel,
    (multisig_quorum recoverV 1 [3, 9, 5, 7] 2 _ rfl SampleMultisig.calls _
      rfl).2.2.2 0 [(3, sign 3), (5, sign 5), (7, sign 7)] [1, 2] (by decide +kernel)
      (by decide +kernel) (by decide +kernel)⟩

end RelaySettlement.OracleMultisig
