import BuildLog.Regex.Expr

/-! Matching by tables. For each position of a text an expression has a list of arrivals: the
positions its matches from there end at, the preferred one first, each end once. The table of an
expression is put together from those of its parts, and a row is computed when it is first used. -/

namespace BuildLog.Regex

/-- A named group and the span that it matched. -/
structure GroupSpan where
  name : String
  start : Nat
  stop : Nat
  deriving DecidableEq, Repr

/-- The end of a match and the groups that matched on the way, last one first. -/
structure Arrival where
  stop : Nat
  groups : List GroupSpan
  deriving DecidableEq, Repr

namespace Arrival

/-- An arrival that goes on from another. -/
def after (a : Arrival) (b : Arrival) : Arrival :=
  ⟨b.stop, b.groups ++ a.groups⟩

/-- Keeps the first arrival at each end; `seen` has a bit for each end that came before. -/
def firstsFrom (seen : Nat) : List Arrival → List Arrival
  | [] => []
  | a :: as =>
    if seen.testBit a.stop then firstsFrom seen as
    else a :: firstsFrom (seen ||| 1 <<< a.stop) as

def firsts (as : List Arrival) : List Arrival :=
  firstsFrom 0 as

end Arrival

/-- The arrivals from each position. -/
structure Table where
  row : Nat → List Arrival

namespace Table

/-- A table whose rows up to `n` are kept once they are computed. -/
def kept (n : Nat) (row : Nat → List Arrival) : Table :=
  let rows := Array.ofFn fun i : Fin (n + 1) => Thunk.mk fun _ => row i
  ⟨fun i => if h : i < rows.size then rows[i].get else []⟩

theorem kept_row {n i : Nat} (row : Nat → List Arrival) (h : i ≤ n) :
    (kept n row).row i = row i := by
  have h' : i < (Array.ofFn fun j : Fin (n + 1) => Thunk.mk fun _ => row j).size := by
    rw [Array.size_ofFn]
    omega
  simp only [kept, dif_pos h', Array.getElem_ofFn, Thunk.get]

def stay : Table := ⟨fun i => [⟨i, []⟩]⟩

/-- First by one table, then by another. -/
def andThen (n : Nat) (s t : Table) : Table :=
  kept n fun i => Arrival.firsts ((s.row i).flatMap fun a => (t.row a.stop).map a.after)

/-- By one table or, less preferred, by another. -/
def orElse (n : Nat) (s t : Table) : Table :=
  kept n fun i => Arrival.firsts (s.row i ++ t.row i)

/-- The order in which going on and stopping are preferred. -/
def arrange (greedy : Bool) (goOn stop : List Arrival) : List Arrival :=
  if greedy then goOn ++ stop else stop ++ goOn

def times (n : Nat) (t : Table) : Nat → Table
  | 0 => stay
  | k + 1 =>
    let rest := Thunk.mk fun _ => times n t k
    kept n fun i =>
      Arrival.firsts ((t.row i).flatMap fun a => (rest.get.row a.stop).map a.after)

def upTo (n : Nat) (greedy : Bool) (t : Table) : Nat → Table
  | 0 => stay
  | k + 1 =>
    let rest := Thunk.mk fun _ => upTo n greedy t k
    kept n fun i =>
      Arrival.firsts (arrange greedy
        ((t.row i).flatMap fun a => (rest.get.row a.stop).map a.after) [⟨i, []⟩])

/-- The rows of a loop from position `n - k` on, between two rounds. A round goes on if it took a
character; a round that took none would come back to where it started. -/
def loopRows (n : Nat) (greedy : Bool) (t : Table) : Nat → List (Thunk (List Arrival))
  | 0 => []
  | k + 1 =>
    let i := n - k
    let later := loopRows n greedy t k
    Thunk.mk (fun _ =>
      Arrival.firsts (arrange greedy
        ((t.row i).flatMap fun a =>
          if i < a.stop then
            match later[a.stop - i - 1]? with
            | some rest => rest.get.map a.after
            | none => []
          else [])
        [⟨i, []⟩])) :: later

/-- Any number of rounds, between two rounds. -/
def loop (n : Nat) (greedy : Bool) (t : Table) : Table :=
  let rows := (loopRows n greedy t (n + 1)).toArray
  ⟨fun i => if h : i < rows.size then rows[i].get else []⟩

/-- One round or more. A first round that takes no character is the only one of its match. -/
def plus (n : Nat) (greedy : Bool) (t : Table) : Table :=
  let more := loop n greedy t
  kept n fun i =>
    Arrival.firsts ((t.row i).flatMap fun a =>
      if i < a.stop then (more.row a.stop).map a.after else [a])

/-- Between `min` and `max` rounds, or without an upper bound. -/
def rounds (n min : Nat) (max : Option Nat) (greedy : Bool) (t : Table) : Table :=
  match min, max with
  | min, some max =>
    if min = max then times n t min
    else if min = 0 then upTo n greedy t max
    else (times n t min).andThen n (upTo n greedy t (max - min))
  | 0, none => kept n fun i => Arrival.firsts (arrange greedy ((plus n greedy t).row i) [⟨i, []⟩])
  | 1, none => plus n greedy t
  | min + 1, none => (times n t min).andThen n (plus n greedy t)

end Table

def Expr.table (text : Array Char) : Expr → Table
  | .empty => .stay
  | .set s => ⟨fun i =>
      match text[i]? with
      | some c => if s.contains c then [⟨i + 1, []⟩] else []
      | none => []⟩
  | .look l => ⟨fun i =>
      let before := if i = 0 then none else text[i - 1]?
      if l.holds before text[i]? then [⟨i, []⟩] else []⟩
  | .seq a b => (a.table text).andThen text.size (b.table text)
  | .alt a b => (a.table text).orElse text.size (b.table text)
  | .group none body => body.table text
  | .group (some name) body =>
    let t := body.table text
    ⟨fun i => (t.row i).map fun a => ⟨a.stop, ⟨name, i, a.stop⟩ :: a.groups⟩⟩
  | .rep body min max greedy => (body.table text).rounds text.size min max greedy

end BuildLog.Regex
