import Mathlib.Data.List.Basic

namespace Usac.Library

/-!
# Scans that find their way back

A scanner judges the front of a stream: it finds an item there, rejects the
position, or waits for more symbols. The greedy scan jumps behind what it finds
and goes on with the next symbol after a rejection.

A verdict that has been given does not change when more symbols come. So it
does not matter how the stream is cut: what has been scanned stays scanned, and
the scan goes on with what it has left.
-/

variable {Symbol Item Fault : Type*}

/-- What a scanner says about the front of a stream. -/
inductive Verdict (Item Fault : Type*) where
  | wait
  | found (item : Item) (size : Nat)
  | reject (fault : Fault)

/-- A scanner whose verdicts are never taken back. -/
structure Scanner (Symbol Item Fault : Type*) where
  judge : List Symbol → Verdict Item Fault
  judge_nil : judge [] = .wait
  found_size :
    ∀ {data : List Symbol} {item : Item} {size : Nat},
      judge data = .found item size → 0 < size ∧ size ≤ data.length
  stable :
    ∀ {data : List Symbol} (more : List Symbol),
      judge data ≠ .wait → judge (data ++ more) = judge data

/-- What a scan reports: an item, or a symbol it has passed over. -/
inductive Finding (Item Fault : Type*) where
  | item (item : Item)
  | skipped (fault : Fault)

namespace Scanner

variable (scanner : Scanner Symbol Item Fault)

/-- Behind an item the stream is shorter. -/
theorem length_drop_lt
    {data : List Symbol}
    {item : Item}
    {size : Nat}
    (verdict : scanner.judge data = .found item size) :
    (data.drop size).length < data.length := by
  obtain ⟨positive, fits⟩ := scanner.found_size verdict
  rw [List.length_drop]
  exact Nat.sub_lt (Nat.lt_of_lt_of_le positive fits) positive

/-- Behind a symbol that is rejected the stream is shorter. -/
theorem length_tail_lt
    {data : List Symbol}
    {fault : Fault}
    (verdict : scanner.judge data = .reject fault) :
    data.tail.length < data.length := by
  cases data with
  | nil => cases scanner.judge_nil.symm.trans verdict
  | cons symbol rest => exact Nat.lt_succ_self _

/-- The greedy scan, with what it leaves. -/
def scan (data : List Symbol) : List (Finding Item Fault) × List Symbol :=
  match _verdict : scanner.judge data with
  | .wait => ([], data)
  | .found item size =>
      let behind := scan (data.drop size)
      (.item item :: behind.1, behind.2)
  | .reject fault =>
      let behind := scan data.tail
      (.skipped fault :: behind.1, behind.2)
termination_by data.length
decreasing_by
  · exact scanner.length_drop_lt _verdict
  · exact scanner.length_tail_lt _verdict

variable {scanner}

/-- A scan that waits has nothing to report. -/
theorem scan_wait
    {data : List Symbol}
    (verdict : scanner.judge data = .wait) :
    scanner.scan data = ([], data) := by
  rw [Scanner.scan]
  split
  · rfl
  · next item size other => cases verdict.symm.trans other
  · next fault other => cases verdict.symm.trans other

/-- A scan jumps behind what it finds. -/
theorem scan_found
    {data : List Symbol}
    {item : Item}
    {size : Nat}
    (verdict : scanner.judge data = .found item size) :
    scanner.scan data =
      (.item item :: (scanner.scan (data.drop size)).1,
        (scanner.scan (data.drop size)).2) := by
  rw [Scanner.scan]
  split
  · next other => cases verdict.symm.trans other
  · next found length other =>
      cases verdict.symm.trans other
      rfl
  · next fault other => cases verdict.symm.trans other

/-- A scan passes over one symbol that is rejected. -/
theorem scan_reject
    {symbol : Symbol}
    {rest : List Symbol}
    {fault : Fault}
    (verdict : scanner.judge (symbol :: rest) = .reject fault) :
    scanner.scan (symbol :: rest) =
      (.skipped fault :: (scanner.scan rest).1, (scanner.scan rest).2) := by
  rw [Scanner.scan]
  split
  · next other => cases verdict.symm.trans other
  · next item size other => cases verdict.symm.trans other
  · next found other =>
      cases verdict.symm.trans other
      rfl

/-- A scan passes over a run of symbols that are rejected one by one. -/
theorem scan_skips
    {skipped rest : List Symbol}
    {fault : Fault}
    (rejects :
      ∀ dropped kept,
        dropped ++ kept = skipped → kept ≠ [] →
          scanner.judge (kept ++ rest) = .reject fault) :
    scanner.scan (skipped ++ rest) =
      (List.replicate skipped.length (.skipped fault) ++
          (scanner.scan rest).1,
        (scanner.scan rest).2) := by
  induction skipped with
  | nil => rfl
  | cons symbol others inductionHypothesis =>
      have first := rejects [] (symbol :: others) rfl (List.cons_ne_nil _ _)
      have later := inductionHypothesis fun dropped kept shape =>
        rejects (symbol :: dropped) kept (congrArg (List.cons symbol) shape)
      rw [List.cons_append] at first ⊢
      rw [scan_reject first, later]
      rfl

/-- A scan stops where it has to wait. -/
theorem judge_scan (data : List Symbol) :
    scanner.judge (scanner.scan data).2 = .wait := by
  induction data using Scanner.scan.induct scanner with
  | case1 data verdict =>
      rw [scan_wait verdict]
      exact verdict
  | case2 data item size verdict inductionHypothesis =>
      rw [scan_found verdict]
      exact inductionHypothesis
  | case3 data fault verdict inductionHypothesis =>
      cases data with
      | nil => cases scanner.judge_nil.symm.trans verdict
      | cons symbol rest =>
          rw [scan_reject verdict]
          exact inductionHypothesis

/-- An item stays found. -/
theorem judge_append_of_found
    {data : List Symbol}
    {item : Item}
    {size : Nat}
    (verdict : scanner.judge data = .found item size)
    (more : List Symbol) :
    scanner.judge (data ++ more) = .found item size := by
  rw [scanner.stable more, verdict]
  rw [verdict]
  exact nofun

/-- A position stays rejected. -/
theorem judge_append_of_reject
    {data : List Symbol}
    {fault : Fault}
    (verdict : scanner.judge data = .reject fault)
    (more : List Symbol) :
    scanner.judge (data ++ more) = .reject fault := by
  rw [scanner.stable more, verdict]
  rw [verdict]
  exact nofun

/--
Scanning a stream in two pieces finds what scanning the whole finds: the second
piece is scanned behind what the first has left.
-/
theorem scan_append (first second : List Symbol) :
    scanner.scan (first ++ second) =
      ((scanner.scan first).1 ++
          (scanner.scan ((scanner.scan first).2 ++ second)).1,
        (scanner.scan ((scanner.scan first).2 ++ second)).2) := by
  induction first using Scanner.scan.induct scanner with
  | case1 data verdict =>
      rw [scan_wait verdict]
      rfl
  | case2 data item size verdict inductionHypothesis =>
      obtain ⟨-, fits⟩ := scanner.found_size verdict
      rw [scan_found (judge_append_of_found verdict second), scan_found verdict,
        List.drop_append_of_le_length fits, inductionHypothesis]
      rfl
  | case3 data fault verdict inductionHypothesis =>
      cases data with
      | nil => cases scanner.judge_nil.symm.trans verdict
      | cons symbol rest =>
          have stays := judge_append_of_reject verdict second
          rw [List.cons_append] at stays ⊢
          rw [scan_reject stays, scan_reject verdict]
          dsimp only [List.tail_cons] at inductionHypothesis
          rw [inductionHypothesis]
          rfl

end Scanner

end Usac.Library
