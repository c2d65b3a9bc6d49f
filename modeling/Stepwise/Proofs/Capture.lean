import Mathlib.Data.List.Induction
import Mathlib.Logic.Function.Basic
import Stepwise.Command
/-!
What is captured of a process that writes to both of its outputs. Two readers take in what comes
through the pipes, each at its own pace, and count the bytes together. What they end with hangs
neither on how the outputs are cut into chunks nor on whose turn it is: it is all of both outputs if
these are within the limit together, and that they are not otherwise.
-/

namespace Stepwise

def Pipe.other : Pipe → Pipe
  | .stdout => .stderr
  | .stderr => .stdout

namespace Capture

def joined (chunks : List ByteArray) : ByteArray := chunks.foldr (· ++ ·) .empty

theorem joined_cons (chunk : ByteArray) (rest : List ByteArray) :
    joined (chunk :: rest) = chunk ++ joined rest := rfl

def verdict (limit : Nat) (stdout stderr : ByteArray) : Except RunError Capture :=
  if stdout.size + stderr.size ≤ limit then .ok ⟨stdout, stderr, stdout.size + stderr.size⟩
  else .error (.overflow limit)

def arriving (pipe : Pipe) (arrivals : List (Pipe × ByteArray)) : List ByteArray :=
  (arrivals.filter (·.1 == pipe)).map (·.2)

theorem arriving_cons (pipe source : Pipe) (chunk : ByteArray) (rest : List (Pipe × ByteArray)) :
    arriving pipe ((source, chunk) :: rest) =
      if source = pipe then chunk :: arriving pipe rest else arriving pipe rest := by
  unfold arriving
  rw [List.filter_cons]
  by_cases same : source = pipe
  · simp [same]
  · simp [same]

theorem read_over {limit : Nat} {c : Capture} {chunk : ByteArray}
    (beyond : limit < c.total + chunk.size) (pipe : Pipe) :
    c.read limit pipe chunk = .error (.overflow limit) := if_pos beyond

theorem verdict_over {limit : Nat} {stdout stderr : ByteArray}
    (beyond : limit < stdout.size + stderr.size) :
    verdict limit stdout stderr = .error (.overflow limit) := if_neg (Nat.not_le.2 beyond)

theorem readAll_from (limit : Nat) (arrivals : List (Pipe × ByteArray)) {c : Capture}
    (counted : c.total = c.stdout.size + c.stderr.size) (within : c.total ≤ limit) :
    arrivals.foldlM (fun c (pipe, chunk) => c.read limit pipe chunk) c =
      verdict limit (c.stdout ++ joined (arriving .stdout arrivals))
        (c.stderr ++ joined (arriving .stderr arrivals)) := by
  -- What has been captured so far grows at the expense of what is still to arrive.
  induction arrivals generalizing c with
  | nil =>
    simp only [arriving, joined, verdict, List.filter_nil, List.map_nil, List.foldr_nil,
      ByteArray.append_empty, ← counted, if_pos within]
    rfl
  | cons arrival rest ih =>
    obtain ⟨pipe, chunk⟩ := arrival
    rw [List.foldlM_cons]
    by_cases beyond : limit < c.total + chunk.size
    · rw [verdict_over]
      · exact congrArg (· >>= _) (read_over beyond pipe)
      · cases pipe with
        | stdout =>
          rw [arriving_cons, if_pos rfl, joined_cons]
          simp only [ByteArray.size_append]
          omega
        | stderr =>
          rw [arriving_cons .stderr, if_pos rfl, joined_cons]
          simp only [ByteArray.size_append]
          omega
    · cases pipe with
      | stdout =>
        have later := ih (c := ⟨c.stdout ++ chunk, c.stderr, c.total + chunk.size⟩)
          (by simp only [ByteArray.size_append]; omega) (by dsimp only; omega)
        rw [ByteArray.append_assoc] at later
        simp only [arriving_cons, reduceCtorEq, ↓reduceIte, joined_cons, ← later, read,
          if_neg beyond]
        rfl
      | stderr =>
        have later := ih (c := ⟨c.stdout, c.stderr ++ chunk, c.total + chunk.size⟩)
          (by simp only [ByteArray.size_append]; omega) (by dsimp only; omega)
        rw [ByteArray.append_assoc] at later
        simp only [arriving_cons, reduceCtorEq, ↓reduceIte, joined_cons, ← later, read,
          if_neg beyond]
        rfl

theorem readAll_eq (limit : Nat) (arrivals : List (Pipe × ByteArray)) :
    readAll limit arrivals = verdict limit (joined (arriving .stdout arrivals))
      (joined (arriving .stderr arrivals)) := by
  unfold readAll
  rw [readAll_from limit arrivals rfl (Nat.zero_le _)]
  simp only [empty, ByteArray.empty_append]

/-- One of the two loops, with what it will still be given and what it has taken. -/
inductive Reader where
  | reading (coming : List ByteArray) (taken : ByteArray)
  | done (taken : ByteArray)
  | failed (error : RunError)

/-- Takes in the next chunk, after it has been counted among those of both pipes. Where nothing
comes the output has ended. -/
def Reader.read (limit : Nat) (total : UInt64) : Reader → Reader × UInt64
  | .reading [] taken => (.done taken, total)
  | .reading (chunk :: coming) taken =>
    if chunk.size = 0 then (.done taken, total)
    else
      let seen := total + UInt64.ofNat chunk.size
      if limit < seen.toNat then (.failed (.overflow limit), seen)
      else (.reading coming (taken ++ chunk), seen)
  | r => (r, total)

structure Readers where
  reader : Pipe → Reader
  total : UInt64

namespace Readers

def start (chunks : Pipe → List ByteArray) : Readers := ⟨fun p => .reading (chunks p) .empty, 0⟩

def step (limit : Nat) (rs : Readers) (p : Pipe) : Readers :=
  let (r, total) := (rs.reader p).read limit rs.total
  ⟨Function.update rs.reader p r, total⟩

def run (limit : Nat) (schedule : List Pipe) (rs : Readers) : Readers :=
  schedule.foldl (step limit) rs

/-- What both come to. One that fails does not wait for the other. -/
def result? (rs : Readers) : Option (Except RunError Capture) :=
  match rs.reader .stdout, rs.reader .stderr with
  | .failed error, _ => some (.error error)
  | _, .failed error => some (.error error)
  | .done stdout, .done stderr => some (.ok ⟨stdout, stderr, rs.total.toNat⟩)
  | _, _ => none

end Readers

/-- Where a reader stands after so many turns, and how many bytes it has counted. -/
inductive Reader.Stands (limit whole : Nat) (stream : ByteArray) (chunks turns : Nat) :
    Reader → Nat → Prop
  | reading {coming : List ByteArray} {taken : ByteArray}
      (nonempty : ∀ chunk ∈ coming, 0 < chunk.size) (ahead : taken ++ joined coming = stream)
      (pace : coming.length + turns = chunks) :
      Stands limit whole stream chunks turns (.reading coming taken) taken.size
  | done : Stands limit whole stream chunks turns (.done stream) stream.size
  | failed {seen : Nat} (beyond : limit < whole) (bounded : seen ≤ stream.size) :
      Stands limit whole stream chunks turns (.failed (.overflow limit)) seen

theorem Reader.Stands.read {limit whole : Nat} {stream : ByteArray} {chunks turns seen others : Nat}
    {r : Reader} (stands : r.Stands limit whole stream chunks turns seen) {total : UInt64}
    (counted : total.toNat = seen + others) (bounded : stream.size + others ≤ whole)
    (small : whole < UInt64.size) :
    ∃ seen', (r.read limit total).1.Stands limit whole stream chunks (turns + 1) seen' ∧
      (r.read limit total).2.toNat = seen' + others ∧
      (((∀ error, r ≠ .failed error) → total.toNat ≤ limit) →
        (∀ error, (r.read limit total).1 ≠ .failed error) →
        (r.read limit total).2.toNat ≤ limit) := by
  cases stands with
  | @reading coming taken nonempty ahead pace =>
    cases coming with
    | nil =>
      have ended : taken = stream := by simpa [joined, ByteArray.append_empty] using ahead
      subst ended
      exact ⟨taken.size, .done, counted, fun within _ => within nofun⟩
    | cons chunk coming =>
      have something : chunk.size ≠ 0 := Nat.pos_iff_ne_zero.1 (nonempty chunk List.mem_cons_self)
      rw [joined_cons, ← ByteArray.append_assoc] at ahead
      have sizes := congrArg ByteArray.size ahead
      simp only [ByteArray.size_append] at sizes
      -- The counter does not wrap, since it counts bytes of the two outputs.
      have added : (total + UInt64.ofNat chunk.size).toNat = taken.size + chunk.size + others := by
        rw [UInt64.toNat_add, UInt64.toNat_ofNat', counted]
        unfold UInt64.size at small
        omega
      rw [Reader.read, if_neg something]
      dsimp only
      by_cases beyond : limit < (total + UInt64.ofNat chunk.size).toNat
      · rw [if_pos beyond]
        exact ⟨taken.size + chunk.size, .failed (by omega) (by omega), added,
          fun _ sound => absurd rfl (sound _)⟩
      · rw [if_neg beyond]
        refine ⟨(taken ++ chunk).size, .reading (fun c member => ?_) ahead ?_, ?_, fun _ _ => ?_⟩
        · exact nonempty c (List.mem_cons_of_mem _ member)
        · rw [List.length_cons] at pace
          omega
        · rw [added, ByteArray.size_append]
        · exact Nat.not_lt.1 beyond
  | done => exact ⟨stream.size, .done, counted, fun within _ => within nofun⟩
  | failed beyond bounded =>
    exact ⟨seen, .failed beyond bounded, counted, fun _ sound => absurd rfl (sound _)⟩

structure Tally (limit : Nat) (stream : Pipe → ByteArray) (chunks : Pipe → List ByteArray)
    (schedule : List Pipe) (rs : Readers) (seen : Pipe → Nat) : Prop where
  counted : rs.total.toNat = seen .stdout + seen .stderr
  stands : ∀ p, (rs.reader p).Stands limit ((stream .stdout).size + (stream .stderr).size)
    (stream p) (chunks p).length (schedule.count p) (seen p)
  within : (∀ p error, rs.reader p ≠ .failed error) → rs.total.toNat ≤ limit

variable {limit : Nat} {stream : Pipe → ByteArray} {chunks : Pipe → List ByteArray}
  {schedule : List Pipe} {rs : Readers} {seen : Pipe → Nat}

theorem sum_pipes (f : Pipe → Nat) (p : Pipe) : f .stdout + f .stderr = f p + f p.other := by
  cases p with
  | stdout => rfl
  | stderr => exact Nat.add_comm _ _

theorem other_ne (p : Pipe) : p.other ≠ p := by
  cases p with
  | stdout => decide
  | stderr => decide

theorem eq_or_other (p q : Pipe) : q = p ∨ q = p.other := by
  cases p with
  | _ =>
    cases q with
    | _ => decide

theorem Reader.Stands.seen_le {whole chunks turns : Nat} {stream : ByteArray} {r : Reader}
    {seen : Nat} (stands : r.Stands limit whole stream chunks turns seen) : seen ≤ stream.size := by
  cases stands with
  | reading nonempty ahead pace =>
    have sizes := congrArg ByteArray.size ahead
    rw [ByteArray.size_append] at sizes
    omega
  | done => exact Nat.le_refl _
  | failed beyond bounded => exact bounded

theorem Tally.step (tally : Tally limit stream chunks schedule rs seen)
    (small : (stream .stdout).size + (stream .stderr).size < UInt64.size) (p : Pipe) :
    ∃ seen', Tally limit stream chunks (schedule ++ [p]) (rs.step limit p) seen' := by
  have counted := tally.counted.trans (sum_pipes seen p)
  have aside := (tally.stands p.other).seen_le
  have whole := sum_pipes (fun q => (stream q).size) p
  obtain ⟨now, stands, total, within⟩ :=
    (tally.stands p).read counted (by omega) small
  refine ⟨Function.update seen p now, ?_, fun q => ?_, fun sound => ?_⟩
  · rw [sum_pipes _ p, Function.update_self, Function.update_of_ne (other_ne p)]
    exact total
  · rcases eq_or_other p q with rfl | rfl
    · simpa [Readers.step, List.count_append] using stands
    · simpa [Readers.step, List.count_append, other_ne, (other_ne p).symm] using
        tally.stands p.other
  · refine within (fun here => tally.within fun q error => ?_) fun error => ?_
    · rcases eq_or_other p q with rfl | rfl
      · exact here error
      · simpa [Readers.step, other_ne] using sound p.other error
    · simpa [Readers.step] using sound p error

theorem Tally.start (cut : ∀ p, joined (chunks p) = stream p)
    (nonempty : ∀ p, ∀ chunk ∈ chunks p, 0 < chunk.size) :
    Tally limit stream chunks [] (.start chunks) fun _ => 0 where
  counted := rfl
  stands p := .reading (nonempty p) (by rw [ByteArray.empty_append, cut p]) rfl
  within _ := Nat.zero_le _

theorem Tally.run (limit : Nat) (cut : ∀ p, joined (chunks p) = stream p)
    (nonempty : ∀ p, ∀ chunk ∈ chunks p, 0 < chunk.size)
    (small : (stream .stdout).size + (stream .stderr).size < UInt64.size) (schedule : List Pipe) :
    ∃ seen,
      Tally limit stream chunks schedule ((Readers.start chunks).run limit schedule) seen := by
  induction schedule using List.reverseRecOn with
  | nil => exact ⟨_, .start cut nonempty⟩
  | append_singleton earlier p ih =>
    obtain ⟨seen, tally⟩ := ih
    rw [Readers.run, List.foldl_append]
    exact tally.step small p

theorem Tally.failed (tally : Tally limit stream chunks schedule rs seen) {p : Pipe}
    {error : RunError} (failed : rs.reader p = .failed error) :
    verdict limit (stream .stdout) (stream .stderr) = .error error := by
  have stands := tally.stands p
  rw [failed] at stands
  cases stands with
  | failed beyond bounded => exact verdict_over beyond

theorem Tally.done (tally : Tally limit stream chunks schedule rs seen) {stdout stderr : ByteArray}
    (out : rs.reader .stdout = .done stdout) (err : rs.reader .stderr = .done stderr) :
    verdict limit (stream .stdout) (stream .stderr) =
      .ok ⟨stdout, stderr, rs.total.toNat⟩ := by
  have within : rs.total.toNat ≤ limit := by
    apply tally.within
    intro p error failed
    cases p with
    | stdout => cases out.symm.trans failed
    | stderr => cases err.symm.trans failed
  have counted := tally.counted
  have first := tally.stands .stdout
  have second := tally.stands .stderr
  rw [out] at first
  rw [err] at second
  generalize seen .stdout = seenOut at *
  generalize seen .stderr = seenErr at *
  cases first with
  | done =>
    cases second with
    | done => rw [verdict, if_pos (by omega), counted]

theorem Tally.result (tally : Tally limit stream chunks schedule rs seen) :
    rs.result? = none ∨ rs.result? = some (verdict limit (stream .stdout) (stream .stderr)) := by
  unfold Readers.result?
  split
  · next failed => exact .inr (congrArg some (tally.failed failed).symm)
  · next failed _ => exact .inr (congrArg some (tally.failed failed).symm)
  · next out err => exact .inr (congrArg some (tally.done out err).symm)
  · exact .inl rfl

/-- A reader that has had a turn for each of its chunks and one more does not go on. -/
theorem Reader.Stands.stopped {whole count turns : Nat} {bytes : ByteArray} {r : Reader} {n : Nat}
    (stands : r.Stands limit whole bytes count turns n) (enough : count < turns) :
    (∃ taken, r = .done taken) ∨ ∃ error, r = .failed error := by
  cases stands with
  | reading nonempty ahead pace => omega
  | done => exact .inl ⟨_, rfl⟩
  | failed beyond bounded => exact .inr ⟨_, rfl⟩

theorem Tally.ended (tally : Tally limit stream chunks schedule rs seen)
    (enough : ∀ p, (chunks p).length < schedule.count p) :
    rs.result? = some (verdict limit (stream .stdout) (stream .stderr)) := by
  refine tally.result.resolve_left ?_
  unfold Readers.result?
  rcases (tally.stands .stdout).stopped (enough .stdout) with ⟨taken, out⟩ | ⟨error, out⟩
  · rcases (tally.stands .stderr).stopped (enough .stderr) with ⟨taken', err⟩ | ⟨error', err⟩
    · simp [out, err]
    · simp [out, err]
  · simp [out]

end Capture

/-- What is captured of two outputs, however they are cut into chunks and in whatever order these
arrive. Whenever the readers come to a result, it is the verdict on the outputs as a whole, and they
do once each of them has had a turn for every chunk and one for the end. A capture that takes in the
chunks as they arrive comes to the same. -/
theorem captured_regardless (limit : Nat) {stream : Pipe → ByteArray}
    {chunks : Pipe → List ByteArray} (cut : ∀ p, Capture.joined (chunks p) = stream p)
    (nonempty : ∀ p, ∀ chunk ∈ chunks p, 0 < chunk.size)
    (small : (stream .stdout).size + (stream .stderr).size < UInt64.size) :
    let verdict := Capture.verdict limit (stream .stdout) (stream .stderr)
    let after (schedule : List Pipe) := (Capture.Readers.start chunks).run limit schedule
    (∀ schedule, (after schedule).result? = none ∨ (after schedule).result? = some verdict) ∧
    (∀ schedule, (∀ p, (chunks p).length < schedule.count p) →
      (after schedule).result? = some verdict) ∧
    (∀ arrivals, (∀ p, Capture.arriving p arrivals = chunks p) →
      Capture.readAll limit arrivals = verdict) := by
  intro verdict after
  refine ⟨fun schedule => ?_, fun schedule enough => ?_, fun arrivals arrive => ?_⟩
  · obtain ⟨seen, tally⟩ := Capture.Tally.run limit cut nonempty small schedule
    exact tally.result
  · obtain ⟨seen, tally⟩ := Capture.Tally.run limit cut nonempty small schedule
    exact tally.ended enough
  · rw [Capture.readAll_eq, arrive, arrive, cut, cut]

def Capture.halves : Pipe → List ByteArray
  | .stdout => ["ab".toUTF8, "cd".toUTF8]
  | .stderr => ["x".toUTF8, "yz".toUTF8]

theorem halves_captured :
    let turns := [Pipe.stderr, .stdout, .stdout, .stderr, .stderr, .stdout]
    (∀ p, ∀ chunk ∈ Capture.halves p, 0 < chunk.size) ∧
      (∀ p, (Capture.halves p).length < turns.count p) ∧
      ((Capture.Readers.start Capture.halves).run 7 turns).result? =
        some (.ok ⟨"abcd".toUTF8, "xyz".toUTF8, 7⟩) ∧
      ((Capture.Readers.start Capture.halves).run 6 turns).result? =
        some (.error (.overflow 6)) ∧
      Capture.readAll 7 [(.stderr, "x".toUTF8), (.stdout, "ab".toUTF8), (.stdout, "cd".toUTF8),
        (.stderr, "yz".toUTF8)] = .ok ⟨"abcd".toUTF8, "xyz".toUTF8, 7⟩ := by
  intro turns
  have nonempty : ∀ p, ∀ chunk ∈ Capture.halves p, 0 < chunk.size := by
    intro p
    cases p with
    | _ => decide
  have enough : ∀ p, (Capture.halves p).length < turns.count p := by
    intro p
    cases p with
    | _ => decide
  let whole (p : Pipe) : ByteArray := if p = .stdout then "abcd".toUTF8 else "xyz".toUTF8
  have cut (p : Pipe) : Capture.joined (Capture.halves p) = whole p := by
    cases p with
    | _ => decide
  have small : (whole .stdout).size + (whole .stderr).size < UInt64.size := by decide
  obtain ⟨-, ends, arrives⟩ := captured_regardless 7 cut nonempty small
  obtain ⟨-, ends', -⟩ := captured_regardless 6 cut nonempty small
  refine ⟨nonempty, enough, (ends turns enough).trans rfl, (ends' turns enough).trans rfl, ?_⟩
  refine (arrives _ fun p => ?_).trans rfl
  cases p with
  | _ => rfl

end Stepwise
