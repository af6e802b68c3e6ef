import Mathlib
import TemplateEngine.Sink.StagedWriter

namespace TemplateEngine

namespace ByteWriter

/-- Writers that do not fail, and that take something of whatever they are offered unless they are interrupted. -/
structure Reliable (W : Type) [ByteWriter W] : Prop where
  write : ∀ bytes (w : W), bytes ≠ [] →
    (∃ count, (ByteWriter.write bytes w).1 = .took (count + 1)) ∨ (ByteWriter.write bytes w).1 = .interrupted
  flush : ∀ w : W, (ByteWriter.flush w).1 = .ok ()

theorem Reliable.writeAll {W : Type} [ByteWriter W] (reliable : Reliable W) (bytes : List UInt8) (w : W) :
    (ByteWriter.writeAll bytes w).1 = .ok () := by
  induction bytes, w using ByteWriter.writeAll.induct with
  | case1 w => rw [writeAll_nil]
  | case2 bytes w some e after answer => simpa [answer] using reliable.write bytes w some
  | case3 bytes w some after answer ih => rw [writeAll_interrupted some answer, ih]
  | case4 bytes w some after answer => simpa [answer] using reliable.write bytes w some
  | case5 bytes w some count after answer ih => rw [writeAll_took some answer, ih]

end ByteWriter

/-- A writer together with all bytes it has taken. -/
structure Tally (W : Type) where
  writer : W
  taken : List UInt8

namespace Tally

variable {W : Type} [ByteWriter W]

/-- The bytes that a writer takes of those it is offered. -/
def share (bytes : List UInt8) : WriteAnswer → List UInt8
  | .took count => bytes.take count
  | .interrupted => []
  | .failed _ => []

instance : ByteWriter (Tally W) where
  write bytes t :=
    let (answer, w) := ByteWriter.write bytes t.writer
    (answer, ⟨w, t.taken ++ share bytes answer⟩)
  flush t := ((ByteWriter.flush t.writer).1, ⟨(ByteWriter.flush t.writer).2, t.taken⟩)
  patience t := ByteWriter.patience t.writer
  interrupted bytes t := ByteWriter.interrupted bytes t.writer

theorem write_eq {bytes : List UInt8} {t after : Tally W} {answer : WriteAnswer}
    (written : ByteWriter.write bytes t = (answer, after)) :
    ByteWriter.write bytes t.writer = (answer, after.writer) ∧ after.taken = t.taken ++ share bytes answer := by
  obtain ⟨rfl, rfl⟩ := Prod.ext_iff.mp written
  exact ⟨rfl, rfl⟩

/-- A writer that is tallied answers as it does alone. -/
theorem writeAll_untallied (bytes : List UInt8) (t : Tally W) :
    ByteWriter.writeAll bytes t.writer =
      ((ByteWriter.writeAll bytes t).1, (ByteWriter.writeAll bytes t).2.writer) := by
  induction bytes, t using ByteWriter.writeAll.induct with
  | case1 t => simp
  | case2 bytes t some e after answer =>
    rw [ByteWriter.writeAll_failed some answer, ByteWriter.writeAll_failed some (write_eq answer).1]
  | case3 bytes t some after answer ih =>
    rw [ByteWriter.writeAll_interrupted some answer, ByteWriter.writeAll_interrupted some (write_eq answer).1, ih]
  | case4 bytes t some after answer =>
    rw [ByteWriter.writeAll_took_none some answer, ByteWriter.writeAll_took_none some (write_eq answer).1]
  | case5 bytes t some count after answer ih =>
    rw [ByteWriter.writeAll_took some answer, ByteWriter.writeAll_took some (write_eq answer).1, ih]

/-- A writer takes a prefix of what it is offered, and the whole of it unless it fails. Interruptions do not
count. -/
theorem writeAll_taken (bytes : List UInt8) (t : Tally W) :
    ∃ more, (ByteWriter.writeAll bytes t).2.taken = t.taken ++ more ∧ more <+: bytes ∧
      ((ByteWriter.writeAll bytes t).1 = .ok () ↔ more = bytes) := by
  have nothing (bytes : List UInt8) (t after : Tally W) (some : bytes ≠ []) (e : SinkError)
      (kept : after.taken = t.taken ++ []) (written : ByteWriter.writeAll bytes t = (.error e, after)) :
      ∃ more, (ByteWriter.writeAll bytes t).2.taken = t.taken ++ more ∧ more <+: bytes ∧
        ((ByteWriter.writeAll bytes t).1 = .ok () ↔ more = bytes) :=
    ⟨[], by rw [written, kept], List.nil_prefix, by simp [written, some.symm]⟩
  induction bytes, t using ByteWriter.writeAll.induct with
  | case1 t => exact ⟨[], by simp⟩
  | case2 bytes t some e after answer =>
    exact nothing bytes t after some e (write_eq answer).2 (ByteWriter.writeAll_failed some answer)
  | case3 bytes t some after answer ih =>
    have kept : after.taken = t.taken ++ [] := (write_eq answer).2
    rw [ByteWriter.writeAll_interrupted some answer]
    rwa [kept, List.append_nil] at ih
  | case4 bytes t some after answer =>
    exact nothing bytes t after some _ (write_eq answer).2 (ByteWriter.writeAll_took_none some answer)
  | case5 bytes t some count after answer ih =>
    obtain ⟨more, taken, within, all⟩ := ih
    have now : after.taken = t.taken ++ bytes.take (count + 1) := (write_eq answer).2
    have split := List.take_append_drop (count + 1) bytes
    rw [ByteWriter.writeAll_took some answer]
    refine ⟨bytes.take (count + 1) ++ more, ?_, ?_, ?_⟩
    · rw [taken, now, List.append_assoc]
    · have extended := (List.prefix_append_right_inj (bytes.take (count + 1))).mpr within
      rwa [split] at extended
    · rw [all]
      constructor
      · rintro rfl
        exact split
      · intro whole
        exact List.append_cancel_left (whole.trans split.symm)

end Tally

/-- What a flush offered to the writer, and what the writer took of it. -/
structure Delivery where
  offered : List UInt8
  taken : List UInt8
deriving DecidableEq

namespace Delivery

/-- The writer failed before it had taken all that it was offered. -/
def Torn (d : Delivery) : Prop := d.taken ≠ d.offered

instance (d : Delivery) : Decidable d.Torn := inferInstanceAs (Decidable (¬ _))

/-- The bytes that count as delivered. -/
def credited (d : Delivery) : List UInt8 := if d.Torn then [] else d.taken

/-- The bytes that the writer took and that count as not delivered. -/
def surplus (d : Delivery) : List UInt8 := if d.Torn then d.taken else []

theorem taken_length (d : Delivery) : d.taken.length = d.credited.length + d.surplus.length := by
  by_cases torn : d.Torn <;> simp [credited, surplus, torn]

theorem taken_eq_credited {d : Delivery} (exact : d.surplus = []) : d.taken = d.credited := by
  by_cases torn : d.Torn
  · rw [credited, if_pos torn, ← exact, surplus, if_pos torn]
  · rw [credited, if_neg torn]

end Delivery

/-- What can be done with a staged writer, short of handing back its writer. -/
inductive StagingOp
  | append (text : String)
  | appendChar (c : Char)
  | flush

namespace StagingOp

/-- The bytes of the text that is appended. -/
def bytes : StagingOp → List UInt8
  | .append text => text.toUTF8.toList
  | .appendChar c => (String.singleton c).toUTF8.toList
  | .flush => []

end StagingOp

namespace StagedWriter

variable {W : Type} [ByteWriter W]

def perform (s : StagedWriter W) : StagingOp → Except SinkError Unit × StagedWriter W
  | .append text => Sink.append text s
  | .appendChar c => Sink.appendChar c s
  | .flush => s.flush

def untallied (s : StagedWriter (Tally W)) : StagedWriter W := ⟨s.writer.writer, s.staged, s.limit⟩

theorem flush_untallied (s : StagedWriter (Tally W)) :
    s.untallied.flush = (s.flush.1, s.flush.2.untallied) := by
  have writes := Tally.writeAll_untallied s.staged s.writer
  simp only [flush, untallied, writes]
  rcases ByteWriter.writeAll s.staged s.writer with ⟨_ | _, t⟩ <;> rfl

theorem perform_untallied (s : StagedWriter (Tally W)) (op : StagingOp) :
    s.untallied.perform op = ((s.perform op).1, (s.perform op).2.untallied) := by
  cases op with
  | append | appendChar => rfl
  | flush => exact s.flush_untallied

theorem finish_untallied (s : StagedWriter (Tally W)) : s.untallied.finish = s.finish.map Tally.writer := by
  simp only [finish, flush_untallied]
  rcases s.flush with ⟨_ | _, t⟩ <;> rfl

theorem flush_of_reliable (reliable : ByteWriter.Reliable W) (s : StagedWriter W) : s.flush.1 = .ok () := by
  have written := reliable.writeAll s.staged s.writer
  simp only [flush]
  rcases answer : ByteWriter.writeAll s.staged s.writer with ⟨e | _, w⟩
  · rw [answer] at written
    cases written
  · exact reliable.flush w

/-- A flush hands over a prefix of what is staged. Only if that is all of it, nothing stays staged. -/
theorem flush_delivers (s : StagedWriter (Tally W)) :
    ∃ more, s.flush.2.writer.taken = s.writer.taken ++ more ∧ more <+: s.staged ∧
      s.flush.2.staged = (if more = s.staged then [] else s.staged) ∧ (s.flush.1 = .ok () → more = s.staged) := by
  obtain ⟨more, taken, within, all⟩ := Tally.writeAll_taken s.staged s.writer
  refine ⟨more, ?_⟩
  rcases written : ByteWriter.writeAll s.staged s.writer with ⟨e | _, t⟩
  · rw [written] at taken all
    have torn : more ≠ s.staged := fun whole => by simp [whole] at all
    simpa [flush, written, within, torn] using taken
  · rw [written] at taken all
    obtain rfl : more = s.staged := all.mp rfl
    simpa [flush, written, ByteWriter.flush] using taken

end StagedWriter

/-- A staged writer with an account of what was appended and what each flush delivered. -/
structure Ledger (W : Type) where
  sink : StagedWriter (Tally W)
  appended : List UInt8
  deliveries : List Delivery

namespace Ledger

variable {W : Type}

def opened (writer : W) (limit : Nat) : Ledger W := ⟨.new ⟨writer, []⟩ limit, [], []⟩

/-- The books agree: what counts as delivered and what is staged is what was appended. -/
structure Balanced (l : Ledger W) : Prop where
  appended : l.appended = l.deliveries.flatMap Delivery.credited ++ l.sink.staged
  taken : l.sink.writer.taken = l.deliveries.flatMap Delivery.taken
  within : ∀ d ∈ l.deliveries, d.taken <+: d.offered
  /-- What a torn flush offered has been delivered since, or is still staged. -/
  again : ∀ before d after, l.deliveries = before ++ d :: after → d.Torn →
    d.offered <+: after.flatMap Delivery.credited ++ l.sink.staged

theorem balanced_opened (writer : W) (limit : Nat) : (opened writer limit).Balanced where
  appended := rfl
  taken := rfl
  within _ member := absurd member List.not_mem_nil
  again before d after split := by simp [opened] at split

theorem Balanced.append {l : Ledger W} (balanced : l.Balanced) (bytes : List UInt8) :
    Balanced ⟨⟨l.sink.writer, l.sink.staged ++ bytes, l.sink.limit⟩, l.appended ++ bytes, l.deliveries⟩ where
  appended := by simp [balanced.appended]
  taken := balanced.taken
  within := balanced.within
  again before d after split torn := by
    rw [← List.append_assoc]
    exact (balanced.again before d after split torn).trans (List.prefix_append _ _)

/-- The writer and the staging area hold too much by what torn flushes delivered. -/
theorem Balanced.count {l : Ledger W} (balanced : l.Balanced) :
    l.sink.writer.taken.length + l.sink.buffered =
      l.appended.length + (l.deliveries.flatMap Delivery.surplus).length := by
  have total (deliveries : List Delivery) : (deliveries.flatMap Delivery.taken).length =
      (deliveries.flatMap Delivery.credited).length + (deliveries.flatMap Delivery.surplus).length := by
    induction deliveries with
    | nil => rfl
    | cons d deliveries ih =>
      have here := d.taken_length
      simp only [List.flatMap_cons, List.length_append]
      omega
  rw [balanced.taken, balanced.appended, total, List.length_append, StagedWriter.buffered]
  omega

theorem Balanced.exact_iff {l : Ledger W} (balanced : l.Balanced) :
    l.sink.writer.taken ++ l.sink.staged = l.appended ↔ ∀ d ∈ l.deliveries, d.surplus = [] := by
  rw [← List.flatMap_eq_nil_iff]
  constructor
  · intro same
    have lengths := congrArg List.length same
    have count := balanced.count
    rw [List.length_append] at lengths
    rw [StagedWriter.buffered] at count
    exact List.length_eq_zero_iff.mp (by omega)
  · intro none
    have taken : l.deliveries.flatMap Delivery.taken = l.deliveries.flatMap Delivery.credited :=
      List.flatMap_congr fun d member => Delivery.taken_eq_credited (List.flatMap_eq_nil_iff.mp none d member)
    rw [balanced.taken, balanced.appended, taken]

variable [ByteWriter W]

def delivery (l : Ledger W) : Delivery :=
  ⟨l.sink.staged, l.sink.flush.2.writer.taken.drop l.sink.writer.taken.length⟩

def perform (l : Ledger W) (op : StagingOp) : Ledger W :=
  ⟨(l.sink.perform op).2, l.appended ++ op.bytes,
    l.deliveries ++ match op with
      | .flush => [l.delivery]
      | _ => []⟩

def run (l : Ledger W) (ops : List StagingOp) : Ledger W := ops.foldl perform l

theorem run_untallied (l : Ledger W) (ops : List StagingOp) :
    (l.run ops).sink.untallied = ops.foldl (fun s op => (s.perform op).2) l.sink.untallied := by
  induction ops generalizing l with
  | nil => rfl
  | cons op ops ih =>
    rw [run, List.foldl_cons, List.foldl_cons, StagedWriter.perform_untallied]
    exact ih (l.perform op)

theorem run_appended (l : Ledger W) (ops : List StagingOp) :
    (l.run ops).appended = l.appended ++ ops.flatMap StagingOp.bytes := by
  induction ops generalizing l with
  | nil => simp [run]
  | cons op ops ih =>
    have rest := ih (l.perform op)
    rw [run, List.foldl_cons]
    simpa [perform, run] using rest

theorem Balanced.flush {l : Ledger W} (balanced : l.Balanced) : (l.perform .flush).Balanced := by
  obtain ⟨more, taken, within, staged, -⟩ := l.sink.flush_delivers
  have delivery : l.delivery = ⟨l.sink.staged, more⟩ := by
    rw [Ledger.delivery, taken, List.drop_left]
  -- what is staged afterwards makes up for what is not credited
  have kept : l.sink.staged = l.delivery.credited ++ l.sink.flush.2.staged := by
    rw [staged, delivery]
    by_cases all : more = l.sink.staged <;> simp [Delivery.credited, Delivery.Torn, all]
  refine ⟨?_, ?_, ?_, ?_⟩
  · simp only [perform, StagingOp.bytes, StagedWriter.perform, List.append_nil, List.flatMap_append,
      List.flatMap_singleton, List.append_assoc]
    rw [← kept, balanced.appended]
  · simp [perform, StagedWriter.perform, taken, balanced.taken, delivery]
  · intro d member
    simp only [perform, List.mem_append, List.mem_singleton] at member
    rcases member with earlier | rfl
    · exact balanced.within d earlier
    · rwa [delivery]
  · intro before d after split torn
    simp only [perform, StagedWriter.perform] at split ⊢
    rcases List.eq_nil_or_concat after with rfl | ⟨between, last, rfl⟩
    · obtain ⟨rfl, last⟩ := List.append_inj' split rfl
      obtain rfl : l.delivery = d := List.singleton_inj.mp last
      have whole : more ≠ l.sink.staged := by rwa [delivery] at torn
      simp [staged, whole, delivery]
    · rw [List.concat_eq_append, ← List.cons_append, ← List.append_assoc] at split
      obtain ⟨earlier, last⟩ := List.append_inj' split rfl
      obtain rfl : l.delivery = _ := List.singleton_inj.mp last
      rw [List.concat_eq_append, List.flatMap_append, List.flatMap_singleton, List.append_assoc, ← kept]
      exact balanced.again before d between earlier torn

theorem Balanced.perform {l : Ledger W} (balanced : l.Balanced) (op : StagingOp) : (l.perform op).Balanced := by
  cases op with
  | append text =>
    have after := balanced.append (StagingOp.append text).bytes
    simpa [Ledger.perform, StagedWriter.perform, Sink.append, StagingOp.bytes] using after
  | appendChar c =>
    have after := balanced.append (StagingOp.appendChar c).bytes
    simpa [Ledger.perform, StagedWriter.perform, Sink.append, Sink.appendChar, StagingOp.bytes] using after
  | flush => exact balanced.flush

theorem Balanced.run {l : Ledger W} (balanced : l.Balanced) (ops : List StagingOp) : (l.run ops).Balanced := by
  induction ops generalizing l with
  | nil => exact balanced
  | cons op ops ih => exact ih (balanced.perform op)

/-- Whatever the writer does, and also after flushes have failed, every appended byte is delivered or staged in its
place. Bytes are delivered twice exactly if a writer has taken some of what a flush offered and then failed, and the
number of staged bytes is too large by as many as it took. With a writer that does not fail no flush fails. -/
theorem delivers_all (writer : W) (limit : Nat) (ops : List StagingOp) :
    let l := (opened writer limit).run ops
    l.sink.untallied = ops.foldl (fun s op => (s.perform op).2) (.new writer limit) ∧
      l.appended = ops.flatMap StagingOp.bytes ∧ l.Balanced ∧
      (l.sink.writer.taken ++ l.sink.staged = l.appended ↔ ∀ d ∈ l.deliveries, d.surplus = []) ∧
      l.sink.writer.taken.length + l.sink.buffered =
        l.appended.length + (l.deliveries.flatMap Delivery.surplus).length ∧
      l.sink.untallied.finish = l.sink.finish.map Tally.writer ∧
      (∀ t, l.sink.finish = .ok t → t.taken = l.sink.writer.taken ++ l.sink.staged) ∧
      (ByteWriter.Reliable W → l.sink.untallied.flush.1 = .ok ()) := by
  intro l
  have balanced : l.Balanced := (balanced_opened writer limit).run ops
  refine ⟨run_untallied _ ops, run_appended _ ops, balanced, balanced.exact_iff, balanced.count,
    l.sink.finish_untallied, fun t handed => ?_, fun reliable => l.sink.untallied.flush_of_reliable reliable⟩
  obtain ⟨more, taken, -, -, all⟩ := l.sink.flush_delivers
  rcases flushed : l.sink.flush with ⟨e | _, s⟩
  · simp [StagedWriter.finish, flushed] at handed
  · obtain rfl : s.writer = t := by simpa [StagedWriter.finish, flushed] using handed
    rw [flushed] at taken all
    rw [taken, all rfl]

/-- A writer with room for three bytes. The second flush fails after one byte of two, and both are staged still. -/
theorem delivers_all_three :
    let writer := BoundedWriter.mk [] (some 3) none false false
    let l := (opened writer 10).run [.append "ab", .flush, .append "cd", .flush]
    l.deliveries.map Delivery.taken = ["ab".toUTF8.toList, "c".toUTF8.toList] ∧
      l.sink.untallied.buffered = 2 ∧
      l.sink.writer.taken.length + l.sink.buffered =
        l.appended.length + (l.deliveries.flatMap Delivery.surplus).length ∧
      ¬ l.sink.writer.taken ++ l.sink.staged = l.appended := by
  intro writer l
  obtain ⟨-, -, -, same_iff, count, -⟩ := delivers_all writer 10 [.append "ab", .flush, .append "cd", .flush]
  refine ⟨by decide_cbv, by decide_cbv, count, fun same => ?_⟩
  have surplus := same_iff.mp same ⟨"cd".toUTF8.toList, "c".toUTF8.toList⟩ (by decide_cbv)
  revert surplus
  decide_cbv

/-- A writer with room for one byte takes it and fails, and both bytes count as not yet written. -/
theorem torn_flush_overcounts :
    let l := (opened (BoundedWriter.mk [] (some 1) none false false) 10).run [.append "ab", .flush]
    l.sink.writer.taken = "a".toUTF8.toList ∧ l.sink.staged = "ab".toUTF8.toList ∧
      l.sink.writer.taken ++ l.sink.staged ≠ l.appended ∧
      l.sink.buffered ≠ l.appended.length - l.sink.writer.taken.length := by
  decide_cbv

end Ledger

end TemplateEngine
