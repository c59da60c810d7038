import Usac.Firmware.Configurator

namespace Usac.Firmware.Tuss4470

open Library
open Library.Logged (Appends)

/-!
# The configurator fails closed

A configuration that is reported as applied has been read back register by
register, and a configuration that fails after the first write ends with the
sequence that brings the device to Standby with its driver off.
-/

/-- The write an operation attempts. -/
def BusOperation.attempted? : BusOperation → Option (UInt8 × UInt8)
  | .write address value _ => some (address, value)
  | _ => none

/-- The writes attempted in a log. -/
def writes (log : BusLog) : List (UInt8 × UInt8) :=
  log.filterMap BusOperation.attempted?

@[simp] theorem writes_append (first second : BusLog) :
    writes (first ++ second) = writes first ++ writes second :=
  List.filterMap_append

/-- What a register write leaves in the log when it succeeds. -/
def verified (pair : RegisterPair) : BusLog :=
  [.write pair.address pair.value true, .read pair.address pair.value true]

/-- The last three writes of a failure. -/
def safeSequence : List (UInt8 × UInt8) :=
  [(tofConfig, 0x00), (vdrvCtrl, 0x20), (tofConfig, 0x40)]

variable (bus : Bus)

/-- Without a write callback nothing is written. -/
def Powerless (segment : BusLog) : Prop :=
  bus.write = none → writes segment = []

variable {bus}

theorem Powerless.append
    {first second : BusLog}
    (atFirst : Powerless bus first)
    (atSecond : Powerless bus second) :
    Powerless bus (first ++ second) := by
  intro missing
  rw [writes_append, atFirst missing, atSecond missing]
  rfl

/-! ## Reads and writes -/

/-- A read adds itself, if anything. -/
theorem readRegister_appends (address : UInt8) :
    Appends (readRegister bus address) fun result segment =>
      writes segment = [] ∧
        (result.1 = .ok → segment = [.read address result.2 true]) := by
  unfold readRegister
  cases bus.read with
  | none => exact .pure ⟨rfl, fun ok => by cases ok⟩
  | some read =>
      refine (Appends.perform fun _ => rfl :
        Appends _ fun answer segment =>
          segment = [.read address answer.2 answer.1]).bind ?_
      rintro ⟨accepted, value⟩ segment rfl
      cases accepted with
      | true => exact .pure ⟨rfl, fun _ => rfl⟩
      | false => exact .pure ⟨rfl, fun ok => by cases ok⟩

/-- A write is attempted where there is a callback, and is verified when it
succeeds. -/
theorem writeVerify_appends (pair : RegisterPair) :
    Appends (writeVerify bus pair.address pair.value) fun result segment =>
      Powerless bus segment ∧
        (bus.write ≠ none → writes segment = [(pair.address, pair.value)]) ∧
        (result = .ok → segment = verified pair) := by
  unfold writeVerify
  cases present : bus.write with
  | none =>
      exact .pure ⟨fun _ => rfl, fun exists_ => absurd rfl exists_,
        fun ok => by cases ok⟩
  | some write =>
      have powered : ∀ segment, Powerless bus segment := by
        intro segment missing
        rw [present] at missing
        cases missing
      refine (Appends.perform fun _ => rfl :
        Appends _ fun accepted segment =>
          segment = [.write pair.address pair.value accepted]).bind ?_
      rintro accepted segment rfl
      cases accepted with
      | false =>
          exact .pure ⟨powered _, fun _ => rfl, fun ok => by cases ok⟩
      | true =>
          refine (readRegister_appends pair.address).bind ?_
          rintro ⟨result, readback⟩ segment ⟨silent, exact_⟩
          have attempted :
              writes ([.write pair.address pair.value true] ++
                  (segment ++ [])) =
                [(pair.address, pair.value)] := by
            rw [writes_append, writes_append, silent]
            rfl
          dsimp only
          split_ifs with failed differs
          · exact .pure ⟨powered _, fun _ => attempted, fun ok => by cases ok⟩
          · exact .pure ⟨powered _, fun _ => attempted, fun ok => by cases ok⟩
          · refine .pure ⟨powered _, fun _ => attempted, fun _ => ?_⟩
            rw [exact_ (not_not.1 failed)]
            dsimp only at differs ⊢
            rw [not_not.1 differs]
            rfl

/-- Registers written one after the other are verified one after the other. -/
theorem writeAll_appends (pairs : List RegisterPair) :
    Appends (writeAll bus pairs) fun result segment =>
      Powerless bus segment ∧
        (result = .ok → segment = pairs.flatMap verified) := by
  induction pairs with
  | nil => exact .pure ⟨fun _ => rfl, fun _ => rfl⟩
  | cons pair rest inductionHypothesis =>
      refine (writeVerify_appends pair).bind ?_
      rintro result segment ⟨powerless, -, exact_⟩
      split
      · next failed =>
          refine .pure ?_
          rw [List.append_nil]
          exact ⟨powerless, fun ok => absurd ok failed⟩
      · next succeeded =>
          refine inductionHypothesis.imp ?_
          rintro last others ⟨more, all⟩
          refine ⟨powerless.append more, fun ok => ?_⟩
          rw [exact_ (not_not.1 succeeded), all ok, List.flatMap_cons]

/-- The safe sequence is attempted as a whole. -/
theorem forceSafe_appends :
    Appends (forceSafe bus) fun _ segment =>
      Powerless bus segment ∧
        (bus.write ≠ none → writes segment = safeSequence) := by
  refine (writeVerify_appends ⟨tofConfig, 0x00⟩).bind ?_
  rintro tof first ⟨noFirst, firstWrite, -⟩
  refine (writeVerify_appends ⟨vdrvCtrl, 0x20⟩).bind ?_
  rintro vdrv second ⟨noSecond, secondWrite, -⟩
  refine (writeVerify_appends ⟨tofConfig, 0x40⟩).bind ?_
  rintro standby third ⟨noThird, thirdWrite, -⟩
  have whole :
      Powerless bus (first ++ (second ++ (third ++ []))) ∧
        (bus.write ≠ none →
          writes (first ++ (second ++ (third ++ []))) = safeSequence) := by
    rw [List.append_nil]
    refine ⟨noFirst.append (noSecond.append noThird), fun present => ?_⟩
    rw [writes_append, writes_append, firstWrite present,
      secondWrite present, thirdWrite present]
    rfl
  split_ifs <;> exact .pure whole

/-! ## The polling loop -/

/-- The status of a device that has come up: no fault, and a drive voltage if
one is needed. -/
def Ready (requiresReady : Bool) (devStat : UInt8) : Prop :=
  devStat &&& faultMask = 0 ∧
    (requiresReady = true → devStat &&& vdrvReady ≠ 0)

/-- Polling writes nothing, and succeeds with a status that is ready. -/
theorem pollStatus_appends
    (requiresReady : Bool)
    (polls : Nat)
    (devStat : UInt8) :
    Appends (pollStatus bus requiresReady polls devStat) fun result segment =>
      writes segment = [] ∧
        (result.1 = .ok →
          Ready requiresReady result.2 ∧
            ∃ before,
              segment = before ++ [.read devStatRegister result.2 true]) := by
  induction polls generalizing devStat with
  | zero => exact .pure ⟨rfl, fun ok => by cases ok⟩
  | succ polls inductionHypothesis =>
      have waited :
          Appends (pauseBeforePoll requiresReady) fun _ segment =>
            writes segment = [] := by
        unfold pauseBeforePoll
        split
        · exact .entry rfl
        · exact .pure rfl
      refine waited.bind ?_
      intro _ pause quiet
      refine (readRegister_appends devStatRegister).bind ?_
      rintro ⟨result, status⟩ segment ⟨silent, exact_⟩
      have nothing : writes (pause ++ (segment ++ [])) = [] := by
        rw [writes_append, writes_append, quiet, silent]
        rfl
      dsimp only
      split_ifs with failed faulty settled
      · exact .pure ⟨nothing, fun ok => absurd ok failed⟩
      · exact .pure ⟨nothing, fun ok => by cases ok⟩
      · refine .pure ⟨nothing, fun _ => ⟨⟨not_not.1 faulty, ?_⟩, pause, ?_⟩⟩
        · intro required
          exact settled.resolve_left (by simp [required])
        · rw [exact_ (not_not.1 failed), List.append_nil]
      · refine (inductionHypothesis status).imp ?_
        rintro last more ⟨still, ready⟩
        refine ⟨?_, fun ok => ?_⟩
        · rw [writes_append, writes_append, quiet, silent, still]
          rfl
        · obtain ⟨good, before, shape⟩ := ready ok
          refine ⟨good, pause ++ (segment ++ before), ?_⟩
          rw [shape]
          simp only [List.append_assoc]

/-! ## The last write to a register -/

/-- The last write to the register was its target value, and the read behind it
returned that value. -/
def LastVerified (pair : RegisterPair) (segment : BusLog) : Prop :=
  ∃ before after,
    segment = before ++ (verified pair ++ after) ∧
      ∀ write ∈ writes after, write.1 ≠ pair.address

/-- Registers that are verified write what they name. -/
theorem writes_verified (pairs : List RegisterPair) :
    writes (pairs.flatMap verified) =
      pairs.map fun pair => (pair.address, pair.value) := by
  induction pairs with
  | nil => rfl
  | cons pair rest inductionHypothesis =>
      rw [List.flatMap_cons, writes_append, inductionHypothesis]
      rfl

/-- The last of the registers with an address is the last one written. -/
theorem lastVerified_of_find?
    {pairs : List RegisterPair}
    {pair : RegisterPair}
    (last :
      pairs.reverse.find? (fun other => other.address = pair.address) =
        some pair) :
    LastVerified pair (pairs.flatMap verified) := by
  obtain ⟨-, behind, before, shape, others⟩ :=
    List.find?_eq_some_iff_append.1 last
  have order : pairs = before.reverse ++ pair :: behind.reverse := by
    rw [← List.reverse_reverse pairs, shape]
    simp
  refine ⟨before.reverse.flatMap verified, behind.reverse.flatMap verified,
    ?_, ?_⟩
  · rw [order, List.flatMap_append, List.flatMap_cons]
  · rw [writes_verified]
    intro write member
    obtain ⟨other, present, rfl⟩ := List.mem_map.1 member
    simpa using others other (List.mem_reverse.1 present)

/-- What follows without a write changes nothing. -/
theorem LastVerified.append
    {pair : RegisterPair}
    {segment quiet : BusLog}
    (last : LastVerified pair segment)
    (silent : writes quiet = []) :
    LastVerified pair (segment ++ quiet) := by
  obtain ⟨before, after, rfl, others⟩ := last
  refine ⟨before, after ++ quiet, ?_, ?_⟩
  · simp only [List.append_assoc]
  · rw [writes_append, silent, List.append_nil]
    exact others

/-- What came before changes nothing. -/
theorem LastVerified.prepend
    {pair : RegisterPair}
    {segment : BusLog}
    (earlier : BusLog)
    (last : LastVerified pair segment) :
    LastVerified pair (earlier ++ segment) := by
  obtain ⟨before, after, rfl, others⟩ := last
  exact ⟨earlier ++ before, after, by simp only [List.append_assoc], others⟩

/-! ## The whole configuration -/

/-- The registers a configuration writes, in order. -/
def writtenRegisters (profile : Profile) : List RegisterPair :=
  safeStart ++ (ordinaryRegisters profile ++
    [⟨vdrvCtrl, profile.value 5⟩, ⟨tofConfig, profile.value 9⟩])

/-- A register at a known address. -/
theorem pair_eq
    {pair : RegisterPair}
    {address : UInt8}
    (placed : pair.address = address) :
    pair = ⟨address, pair.value⟩ := by
  rw [← placed]

/-- The registers of a valid profile are in their places. -/
theorem registers_of_valid
    {profile : Profile}
    (valid : profile.Valid) :
    profile.registers.toList =
      [⟨0x10, profile.value 0⟩, ⟨0x11, profile.value 1⟩,
        ⟨0x12, profile.value 2⟩, ⟨0x13, profile.value 3⟩,
        ⟨0x14, profile.value 4⟩, ⟨0x16, profile.value 5⟩,
        ⟨0x17, profile.value 6⟩, ⟨0x18, profile.value 7⟩,
        ⟨0x1A, profile.value 8⟩, ⟨0x1B, profile.value 9⟩] := by
  have listed : profile.registers.toList = List.ofFn profile.registers.get := by
    rw [← List.Vector.toList_ofFn, List.Vector.ofFn_get]
  have places := valid.addresses
  rw [listed] at places ⊢
  simp only [Profile.registerAddresses, List.ofFn_succ, List.ofFn_zero,
    List.map_cons, List.map_nil, List.cons.injEq, and_true] at places
  simp only [List.ofFn_succ, List.ofFn_zero, List.cons.injEq, and_true,
    Profile.value]
  obtain ⟨at0, at1, at2, at3, at4, at5, at6, at7, at8, at9⟩ := places
  exact ⟨pair_eq at0, pair_eq at1, pair_eq at2, pair_eq at3, pair_eq at4,
    pair_eq at5, pair_eq at6, pair_eq at7, pair_eq at8, pair_eq at9⟩

/-- Each register of a valid profile is written last with its own value. -/
theorem lastVerified_of_valid
    {profile : Profile}
    (valid : profile.Valid) :
    ∀ pair ∈ profile.registers.toList,
      LastVerified pair ((writtenRegisters profile).flatMap verified) := by
  have ordinary :
      ordinaryRegisters profile =
        [⟨0x10, profile.value 0⟩, ⟨0x11, profile.value 1⟩,
          ⟨0x12, profile.value 2⟩, ⟨0x13, profile.value 3⟩,
          ⟨0x14, profile.value 4⟩, ⟨0x17, profile.value 6⟩,
          ⟨0x18, profile.value 7⟩, ⟨0x1A, profile.value 8⟩] := by
    unfold ordinaryRegisters
    rw [registers_of_valid valid]
    rfl
  intro pair member
  apply lastVerified_of_find?
  unfold writtenRegisters
  rw [ordinary]
  rw [registers_of_valid valid] at member
  simp only [List.mem_cons, List.not_mem_nil, or_false] at member
  rcases member with
    rfl | rfl | rfl | rfl | rfl | rfl | rfl | rfl | rfl | rfl <;> rfl

/-- What a configuration that is reported as applied has done. -/
structure Established (profile : Profile) (segment : BusLog) : Prop where
  registers :
    ∀ pair ∈ profile.registers.toList, LastVerified pair segment
  drivers :
    ∃ before,
      writes segment =
        before ++
          [(vdrvCtrl, profile.value 5), (tofConfig, profile.value 9)]
  status :
    ∃ before devStat,
      segment = before ++ [.read devStatRegister devStat true] ∧
        Ready (requiresVdrvReady profile) devStat

/-- The device has identified itself at the start. -/
def Identified (segment : BusLog) : Prop :=
  ∃ rest,
    segment =
      [.read deviceIdRegister deviceIdValue true,
        .read revIdRegister revisionIdValue true] ++ rest

/-- The registers of a profile are written and verified in order. -/
theorem writeProfile_appends (profile : Profile) :
    Appends (writeProfile bus profile) fun result segment =>
      Powerless bus segment ∧
        (result = .ok →
          segment = (writtenRegisters profile).flatMap verified) := by
  refine (writeAll_appends safeStart).bind ?_
  rintro started first ⟨noFirst, safe⟩
  split
  · next failed =>
      refine .pure ?_
      rw [List.append_nil]
      exact ⟨noFirst, fun ok => absurd ok failed⟩
  · next succeeded =>
      refine (writeAll_appends (ordinaryRegisters profile)).bind ?_
      rintro ordinary second ⟨noSecond, all⟩
      split
      · next failed =>
          refine .pure ?_
          rw [List.append_nil]
          exact ⟨noFirst.append noSecond, fun ok => absurd ok failed⟩
      · next ordinarySucceeded =>
          refine (writeAll_appends _).imp ?_
          rintro result third ⟨noThird, drivers⟩
          refine ⟨noFirst.append (noSecond.append noThird), fun ok => ?_⟩
          rw [safe (not_not.1 succeeded), all (not_not.1 ordinarySucceeded),
            drivers ok]
          unfold writtenRegisters
          rw [List.flatMap_append, List.flatMap_append]

/-- A configuration that succeeds behind the identity check is established. -/
theorem configureIdentified_appends
    {profile : Profile}
    (valid : profile.Valid)
    (pollLimit : UInt16) :
    Appends (configureIdentified bus profile pollLimit) fun result segment =>
      Powerless bus segment ∧
        (result.1 = .ok → Established profile segment) := by
  refine (writeProfile_appends profile).bind ?_
  rintro written first ⟨powerless, registers⟩
  split_ifs with failed missing
  · refine .pure ?_
    rw [List.append_nil]
    exact ⟨powerless, fun ok => absurd ok failed⟩
  · refine .pure ?_
    rw [List.append_nil]
    exact ⟨powerless, fun ok => by cases ok⟩
  all_goals
    refine (pollStatus_appends _ _ 0).imp ?_
    rintro ⟨result, devStat⟩ second ⟨silent, polled⟩
    refine ⟨powerless.append fun _ => silent, fun ok => ?_⟩
    obtain ⟨ready, before, shape⟩ := polled ok
    have shown := registers (not_not.1 failed)
    refine ⟨?_, ?_, ?_⟩
    · intro pair member
      exact (shown ▸ lastVerified_of_valid valid pair member).append silent
    · refine ⟨writes ((safeStart ++ ordinaryRegisters profile).flatMap
        verified), ?_⟩
      rw [writes_append, silent, List.append_nil, shown]
      unfold writtenRegisters
      rw [← List.append_assoc, List.flatMap_append, writes_append]
      rfl
    · exact ⟨first ++ before, devStat, by rw [shape, List.append_assoc], ready⟩

/-- What comes before a configuration that is established changes nothing. -/
theorem Established.prepend
    {profile : Profile}
    {segment : BusLog}
    (earlier : BusLog)
    (established : Established profile segment) :
    Established profile (earlier ++ segment) := by
  obtain ⟨registers, ⟨others, drivers⟩, before, devStat, shape, ready⟩ :=
    established
  refine ⟨fun pair member => (registers pair member).prepend earlier, ?_, ?_⟩
  · exact ⟨writes earlier ++ others, by
      rw [writes_append, drivers, List.append_assoc]⟩
  · exact ⟨earlier ++ before, devStat, by rw [shape, List.append_assoc], ready⟩

/-- The safe sequence behind a failure is attempted as a whole, and the failure
is still reported. -/
theorem failSafe_appends (result : ConfigResult) :
    Appends (failSafe bus result) fun reported segment =>
      reported = result ∧
        Powerless bus segment ∧
        (bus.write ≠ none → writes segment = safeSequence) := by
  refine forceSafe_appends.bind ?_
  rintro _ segment ⟨powerless, sequence⟩
  refine .pure ?_
  rw [List.append_nil]
  exact ⟨rfl, powerless, sequence⟩

/-- What the log of a configuration shows, whatever the bus did. -/
structure FailsClosed
    (profile : Profile)
    (result : ConfigResult)
    (segment : BusLog) :
    Prop where
  established : result = .ok → Established profile segment
  identified :
    writes segment ≠ [] → profile.validate = .ok ∧ Identified segment
  safe :
    result ≠ .ok → writes segment ≠ [] → safeSequence <:+ writes segment

/-- A failure before the first write. -/
theorem FailsClosed.silent
    {profile : Profile}
    {result : ConfigResult}
    {segment : BusLog}
    (failed : result ≠ .ok)
    (quiet : writes segment = []) :
    FailsClosed profile result segment :=
  ⟨fun ok => absurd ok failed, fun written => absurd quiet written,
    fun _ written => absurd quiet written⟩

/-- A configuration of the TUSS4470 fails closed on every bus. -/
theorem configureFirmware_failsClosed
    (bus : Bus)
    (profile : Profile)
    (vdrvReadyPollLimit : UInt16) :
    Appends (configureFirmware bus profile vdrvReadyPollLimit)
      fun answer segment => FailsClosed profile answer.1 segment := by
  unfold configureFirmware
  split
  · exact .pure (.silent (fun ok => by cases ok) rfl)
  · next accepted =>
      have validated := not_not.1 accepted
      have valid := Profile.valid_of_validate validated
      refine (readRegister_appends deviceIdRegister).bind ?_
      rintro ⟨device, deviceId⟩ first ⟨quietFirst, firstRead⟩
      dsimp only
      split
      · next failed =>
          refine .pure (.silent failed ?_)
          rw [List.append_nil]
          exact quietFirst
      next deviceRead =>
      refine (readRegister_appends revIdRegister).bind ?_
      rintro ⟨revision, revisionId⟩ second ⟨quietSecond, secondRead⟩
      have quiet : writes (first ++ (second ++ [])) = [] := by
        rw [writes_append, writes_append, quietFirst, quietSecond]
        rfl
      dsimp only
      split
      · next failed => exact .pure (.silent failed quiet)
      next revisionRead =>
      split
      · exact .pure (.silent (fun ok => by cases ok) quiet)
      next known =>
      obtain ⟨device_eq, revision_eq⟩ := not_or.1 known
      have identified : ∀ rest, Identified (first ++ (second ++ rest)) := by
        intro rest
        refine ⟨rest, ?_⟩
        rw [firstRead (not_not.1 deviceRead),
          secondRead (not_not.1 revisionRead)]
        dsimp only at device_eq revision_eq ⊢
        rw [not_not.1 device_eq, not_not.1 revision_eq]
        rfl
      refine (configureIdentified_appends valid vdrvReadyPollLimit).bind ?_
      rintro ⟨result, devStat⟩ third ⟨powerless, established⟩
      dsimp only
      split
      · next failed =>
          refine (failSafe_appends result).bind ?_
          rintro reported fourth ⟨rfl, noFourth, sequence⟩
          refine .pure ?_
          rw [List.append_nil]
          refine ⟨fun ok => absurd ok failed,
            fun _ => ⟨validated, identified _⟩, fun _ written => ?_⟩
          -- without a write callback there is nothing to fail closed from
          by_cases missing : bus.write = none
          · refine absurd ?_ written
            rw [writes_append, writes_append, writes_append, quietFirst,
              quietSecond, powerless missing, noFourth missing]
            rfl
          · refine ⟨writes (first ++ (second ++ third)), ?_⟩
            rw [← sequence missing, ← writes_append]
            simp only [List.append_assoc]
      · next succeeded =>
          refine .pure ⟨fun _ => ?_, fun _ => ⟨validated, identified _⟩,
            fun failed => absurd rfl failed⟩
          rw [List.append_nil]
          exact ((established (not_not.1 succeeded)).prepend
            second).prepend first

end Usac.Firmware.Tuss4470
