import Sluice.Proofs.Socket.Ledger

/-!
# The two directions of a file

A read changes the inlet of a file at most (`File.Reads.eq_setInlet`), a write its outlet. Neither
looks at what the other may change: a call on a file with another outlet reads the same bytes
(`File.readSome_setOutlet`), and one on a file with another inlet writes as much
(`File.flush_setInlet`). So the order of a read and a write on one file does not matter.
-/

namespace Sluice

/-- What reading may change of a stream. The pending error belongs here, because a read takes it
away, and a write neither takes it nor looks at it. -/
structure Inlet where
  inbound : Lane := {}
  nearFault : Option Errno := none
  reads : List Disturbance := []

structure Outlet where
  outbound : Lane := {}
  writes : List Disturbance := []

/-! ## Transfers through a change that they do not see -/

section

variable {σ τ : Type} [ByteStream σ] [ByteStream τ] {g : σ → τ}

theorem readSome_map (hg : ∀ s n, ByteStream.read (g s) n
      = ((ByteStream.read s n).1, g (ByteStream.read s n).2)) (s : σ) (n : Nat) :
    readSome (g s) n = ((readSome s n).1, g (readSome s n).2) := by
  fun_induction readSome s n with
  | case1 s r hi ih =>
    rw [readSome, hg]
    exact (dif_pos hi).trans ih
  | case2 s r hi =>
    rw [readSome, hg]
    exact dif_neg hi

theorem writeSome_map (hg : ∀ s data, ByteStream.write (g s) data
      = ((ByteStream.write s data).1, g (ByteStream.write s data).2)) (s : σ) (data : List UInt8)
    (hne : data ≠ []) :
    writeSome (g s) data hne = ((writeSome s data hne).1, g (writeSome s data hne).2) := by
  fun_induction writeSome s data hne with
  | case1 s r hi ih =>
    rw [writeSome, hg]
    exact (dif_pos hi).trans ih
  | case2 s r hi =>
    rw [writeSome, hg]
    exact dif_neg hi

theorem Staging.flush_map (hg : ∀ s data, ByteStream.write (g s) data
      = ((ByteStream.write s data).1, g (ByteStream.write s data).2)) (st : Staging) (s : σ) :
    st.flush (g s) = ((st.flush s).1, (st.flush s).2.1, g (st.flush s).2.2) := by
  fun_induction Staging.flush st s with
  | case1 st s h n pos s' hw ih =>
    rw [Staging.flush, dif_pos h, writeSome_map hg, hw]
    exact ih
  | case2 st s h s' hw =>
    rw [Staging.flush, dif_pos h, writeSome_map hg, hw]
  | case3 st s h e s' hw =>
    rw [Staging.flush, dif_pos h, writeSome_map hg, hw]
  | case4 st s h =>
    rw [Staging.flush, dif_neg h]

end

namespace Stream

/-! ## Streams -/

def setInlet (s : Stream) (i : Inlet) : Stream :=
  { s with inbound := i.inbound, nearFault := i.nearFault, reads := i.reads }

def setOutlet (s : Stream) (o : Outlet) : Stream :=
  { s with outbound := o.outbound, writes := o.writes }

theorem readFreely_setOutlet (o : Outlet) (s : Stream) (n : Nat) :
    (s.setOutlet o).readFreely n = ((s.readFreely n).1, (s.readFreely n).2.setOutlet o) := by
  have hobstacle : (s.setOutlet o).obstacle? = s.obstacle? := rfl
  have hinbound : (s.setOutlet o).inbound = s.inbound := rfl
  have hfault : (s.setOutlet o).nearFault = s.nearFault := rfl
  rw [readFreely, readFreely, hobstacle, hinbound, hfault]
  cases s.obstacle? with
  | some e => rfl
  | none =>
    cases s.nearFault with
    | some e => cases s.inbound.isEmpty <;> rfl
    | none => cases s.inbound.isEmpty <;> cases s.inbound.shut <;> rfl

theorem read_setOutlet (o : Outlet) (s : Stream) (n : Nat) :
    (s.setOutlet o).read n = ((s.read n).1, (s.read n).2.setOutlet o) := by
  have hreads : (s.setOutlet o).reads = s.reads := rfl
  rw [read, read, hreads]
  cases s.reads with
  | nil => exact readFreely_setOutlet o s n
  | cons d rest =>
    cases d with
    | short limit => exact readFreely_setOutlet o { s with reads := rest } _
    | _ => rfl

theorem writeFreely_setInlet (i : Inlet) (s : Stream) (data : List UInt8) :
    (s.setInlet i).writeFreely data
      = ((s.writeFreely data).1, (s.writeFreely data).2.setInlet i) := by
  have hobstacle : (s.setInlet i).obstacle? = s.obstacle? := rfl
  have houtbound : (s.setInlet i).outbound = s.outbound := rfl
  have hjammed : (s.setInlet i).jammed = s.jammed := rfl
  rw [writeFreely, writeFreely, hobstacle, houtbound, hjammed]
  cases s.obstacle? with
  | some e => rfl
  | none => cases s.outbound.shut <;> cases s.jammed <;> rfl

theorem write_setInlet (i : Inlet) (s : Stream) (data : List UInt8) :
    (s.setInlet i).write data = ((s.write data).1, (s.write data).2.setInlet i) := by
  have hwrites : (s.setInlet i).writes = s.writes := rfl
  rw [write, write, hwrites]
  cases s.writes with
  | nil => exact writeFreely_setInlet i s data
  | cons d rest =>
    cases d with
    | short limit => exact writeFreely_setInlet i { s with writes := rest } _
    | _ => rfl

theorem takeError_setOutlet (o : Outlet) (s : Stream) :
    (s.setOutlet o).takeError = (s.takeError.1, s.takeError.2.setOutlet o) := by
  have hobstacle : (s.setOutlet o).obstacle? = s.obstacle? := rfl
  have hfault : (s.setOutlet o).nearFault = s.nearFault := rfl
  rw [takeError, takeError, hobstacle, hfault]
  cases s.obstacle? <;> rfl

end Stream

namespace File

/-! ## Files -/

def inlet : File → Inlet
  | .stream s => ⟨s.inbound, s.nearFault, s.reads⟩
  | .device _ => {}

def outlet : File → Outlet
  | .stream s => ⟨s.outbound, s.writes⟩
  | .device _ => {}

def setInlet : File → Inlet → File
  | .stream s, i => .stream (s.setInlet i)
  | .device b, _ => .device b

def setOutlet : File → Outlet → File
  | .stream s, o => .stream (s.setOutlet o)
  | .device b, _ => .device b

variable {f f' : File} {data : List UInt8}

@[simp] theorem setInlet_inlet (f : File) : f.setInlet f.inlet = f := by cases f <;> rfl

@[simp] theorem setOutlet_outlet (f : File) : f.setOutlet f.outlet = f := by cases f <;> rfl

@[simp] theorem setInlet_setInlet (f : File) (i j : Inlet) :
    (f.setInlet i).setInlet j = f.setInlet j := by cases f <;> rfl

@[simp] theorem setOutlet_setOutlet (f : File) (o o' : Outlet) :
    (f.setOutlet o).setOutlet o' = f.setOutlet o' := by cases f <;> rfl

theorem setOutlet_setInlet (f : File) (i : Inlet) (o : Outlet) :
    (f.setInlet i).setOutlet o = (f.setOutlet o).setInlet i := by cases f <;> rfl

theorem Reads.eq_setInlet (h : f.Reads data f') : f' = f.setInlet f'.inlet := by
  cases h with
  | @stream s s' data h =>
    have hrest : (File.stream s').setInlet (File.stream s).inlet = .stream s :=
      congrArg File.stream h.rest
    rw [← hrest, setInlet_setInlet, setInlet_inlet]
  | device b => rfl

theorem Writes.eq_setOutlet (h : f.Writes data f') : f' = f.setOutlet f'.outlet := by
  cases h with
  | @stream s s' data h =>
    have hrest : (File.stream s').setOutlet (File.stream s).outlet = .stream s :=
      congrArg File.stream h.rest
    rw [← hrest, setOutlet_setOutlet, setOutlet_outlet]
  | device b => rfl

/-- A read does not see the outlet: with another one in its place, it comes to the same and leaves
that one as it is. For writes this is `flush_setInlet`. -/
theorem readSome_setOutlet (f : File) (o : Outlet) (n : Nat) :
    readSome (f.setOutlet o) n = ((readSome f n).1, (readSome f n).2.setOutlet o) := by
  refine readSome_map (g := (·.setOutlet o)) ?_ f n
  intro f n
  cases f with
  | stream s => exact congrArg (fun r => (r.1, File.stream r.2)) (s.read_setOutlet o n)
  | device b => rfl

theorem takeError_setOutlet (f : File) (o : Outlet) :
    (f.setOutlet o).takeError = (f.takeError.1, f.takeError.2.setOutlet o) := by
  cases f with
  | stream s => exact congrArg (fun r => (r.1, File.stream r.2)) (s.takeError_setOutlet o)
  | device b => rfl

theorem flush_setInlet (st : Staging) (f : File) (i : Inlet) :
    st.flush (f.setInlet i) = ((st.flush f).1, (st.flush f).2.1, (st.flush f).2.2.setInlet i) := by
  refine Staging.flush_map (g := (·.setInlet i)) ?_ st f
  intro f data
  cases f with
  | stream s => exact congrArg (fun r => (r.1, File.stream r.2)) (s.write_setInlet i data)
  | device b => rfl

end File

end Sluice
