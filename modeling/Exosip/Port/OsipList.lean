import Exosip.Machine.Chain
import Exosip.Parser.Message

/-! `osip_list`: the nodes of a list in a memory that is shared, the operations on them and the
iterators, which point at the link before their node. -/
namespace Exosip

open Machine

/-- `osip_list_t`, with the memory of its nodes. -/
structure OsipList (ι α : Type) where
  nbElt : Int
  mem : Chain ι α

/-- `osip_list_iterator_t`. -/
structure ListIterator (ι : Type) where
  actual : Option ι
  prev : Link ι
  pos : Int

namespace OsipList

variable {ι κ α : Type} [DecidableEq ι]

/-- `osip_list_init`. -/
def init (heap : ι → Option (Cell ι α)) : OsipList ι α := ⟨0, heap, none⟩

/-- `*link = osip_malloc (...)`, and the fields of the new node. Without memory the link is
as it was. -/
def putNode (li : OsipList ι α) (link : Link ι) (el : α) (next : Option ι) (block : Option ι) :
    Option (OsipList ι α × Int) :=
  match block with
  | none => (li.mem.write link next).map fun mem => (⟨li.nbElt, mem⟩, osipNomem)
  | some a =>
      (li.mem.write link (some a)).map fun mem =>
        (⟨li.nbElt + 1, mem.store a ⟨next, el⟩⟩, li.nbElt + 1)

/-- `osip_list_add`, where `block` is what `osip_malloc` returns; none for an access to a node
that is not there. -/
def osipListAdd (li : OsipList ι α) (el : α) (pos : Int) (block : Option ι) :
    Option (OsipList ι α × Int) :=
  if li.nbElt = 0 then li.putNode .head el none block
  else
    let pos := if pos = -1 ∨ pos ≥ li.nbElt then li.nbElt else pos
    if pos = 0 then li.putNode .head el li.mem.node block
    else do
      -- while (pos > i + 1)
      let ntmp ← li.mem.walk (pos - 1).toNat li.mem.node
      let ntmp ← ntmp
      if pos = li.nbElt then li.putNode (.next ntmp) el none block
      else
        let nextnode ← li.mem.read (.next ntmp)
        li.putNode (.next ntmp) el nextnode block

def osipListRemove (li : OsipList ι α) (pos : Int) : Option (OsipList ι α × Int) :=
  if pos < 0 ∨ pos ≥ li.nbElt then some (li, osipUndefinedError)
  else if pos = 0 then do
    let ntmp ← li.mem.node
    let next ← li.mem.read (.next ntmp)
    let mem ← li.mem.write .head next
    let mem ← mem.free ntmp
    some (⟨li.nbElt - 1, mem⟩, li.nbElt - 1)
  else do
    let ntmp ← li.mem.walk (pos - 1).toNat li.mem.node
    let ntmp ← ntmp
    let remnode ← li.mem.read (.next ntmp)
    let remnode ← remnode
    let next ← li.mem.read (.next remnode)
    let mem ← li.mem.write (.next ntmp) next
    let mem ← mem.free remnode
    some (⟨li.nbElt - 1, mem⟩, li.nbElt - 1)

/-- `osip_list_iterator_has_elem`. -/
def hasElem (li : OsipList ι α) (it : ListIterator ι) : Bool :=
  it.actual.isSome && decide (it.pos < li.nbElt)

/-- `iterator->actual->element`. -/
def actualElement (li : OsipList ι α) (it : ListIterator ι) : Option α :=
  it.actual.bind li.mem.element

/-- `osip_list_get_first`; in an empty list only `actual` is set. -/
def osipListGetFirst (li : OsipList ι α) (it : ListIterator ι) :
    Option (ListIterator ι × Option α) :=
  if 0 ≥ li.nbElt then some ({ it with actual := none }, none)
  else do
    let it : ListIterator ι := ⟨li.mem.node, .head, 0⟩
    let el ← li.actualElement it
    some (it, some el)

def osipListGetNext (li : OsipList ι α) (it : ListIterator ι) :
    Option (ListIterator ι × Option α) :=
  match it.actual with
  | none => some (it, none)
  | some p => do
      let actual ← li.mem.read (.next p)
      let it : ListIterator ι := ⟨actual, .next p, it.pos + 1⟩
      if li.hasElem it then
        let el ← li.actualElement it
        some (it, some el)
      else some ({ it with actual := none }, none)

def osipListIteratorRemove (li : OsipList ι α) (it : ListIterator ι) :
    Option (OsipList ι α × ListIterator ι × Option α) := do
  let (li, it) ←
    if li.hasElem it then do
      let p ← it.actual
      let next ← li.mem.read (.next p)
      let mem ← li.mem.write it.prev next
      let mem ← mem.free p
      let actual ← mem.read it.prev
      some ((⟨li.nbElt - 1, mem⟩ : OsipList ι α), { it with actual })
    else some (li, it)
  if li.hasElem it then
    let el ← li.actualElement it
    some (li, it, some el)
  else some (li, it, none)

/-! ### Calls -/

/-- `osip_malloc` returns a block that is not in use, or NULL; its answer may change from call
to call. -/
structure Malloc (ι α : Type) where
  answer : (ι → Option (Cell ι α)) → Nat → Option ι
  fresh : ∀ heap call, ∀ a ∈ answer heap call, heap a = none

inductive ListCall (κ α : Type)
  | add (el : α) (pos : Int)
  | remove (pos : Int)
  | getFirst (k : κ)
  | getNext (k : κ)
  | iteratorRemove (k : κ)

inductive Ret (α : Type)
  | int (code : Int)
  | element (el : Option α)

/-- A list with the iterators on it. -/
structure Iterated (ι κ α : Type) where
  li : OsipList ι α
  iterator : κ → ListIterator ι
  calls : Nat

section Step

variable [DecidableEq κ]

def Iterated.setIterator (s : Iterated ι κ α) (k : κ) (it : ListIterator ι) : Iterated ι κ α :=
  { s with iterator := Function.update s.iterator k it }

def Iterated.step (malloc : Malloc ι α) (s : Iterated ι κ α) :
    ListCall κ α → Option (Ret α × Iterated ι κ α)
  | .add el pos =>
      (s.li.osipListAdd el pos (malloc.answer s.li.mem.heap s.calls)).map fun r =>
        (.int r.2, { s with li := r.1, calls := s.calls + 1 })
  | .remove pos => (s.li.osipListRemove pos).map fun r => (.int r.2, { s with li := r.1 })
  | .getFirst k =>
      (s.li.osipListGetFirst (s.iterator k)).map fun r => (.element r.2, s.setIterator k r.1)
  | .getNext k =>
      (s.li.osipListGetNext (s.iterator k)).map fun r => (.element r.2, s.setIterator k r.1)
  | .iteratorRemove k =>
      (s.li.osipListIteratorRemove (s.iterator k)).map fun r =>
        (.element r.2.2, { s with li := r.1 }.setIterator k r.2.1)

def Iterated.run (malloc : Malloc ι α) (s : Iterated ι κ α) :
    List (ListCall κ α) → Option (List (Ret α) × Iterated ι κ α)
  | [] => some ([], s)
  | call :: calls =>
      (s.step malloc call).bind fun r =>
        (r.2.run malloc calls).map fun rs => (r.1 :: rs.1, rs.2)

end Step
end OsipList
end Exosip
