import FolderTag.Proofs.Outcome
import FolderTag.Regex.Parser
import Mathlib.Tactic.SplitIfs

/-! # Steps of reading a pattern

What the reader does at the beginning of its tokens: it takes one off, reads a set, repeats the last
item, or reads a whole group. -/

namespace FolderTag.Regex

/-- The number of characters that tokens are written with. -/
def totalWidth : List Token → Nat
  | [] => 0
  | t :: ts => t.width + totalWidth ts

theorem totalWidth_append (ts us : List Token) :
    totalWidth (ts ++ us) = totalWidth ts + totalWidth us := by
  induction ts with
  | nil => simp [totalWidth]
  | cons t ts ih => simp [totalWidth, ih, Nat.add_assoc]

/-- The reader behind the tokens `read`, where `rest` is left. -/
def Reader.behind (r : Reader) (read rest : List Token) : Reader :=
  { r with rest, position := r.position + totalWidth read }

@[simp] theorem Reader.behind_rest (r : Reader) (read rest : List Token) :
    (r.behind read rest).rest = rest := rfl

@[simp] theorem Reader.behind_behind (r : Reader) (read more rest rest' : List Token) :
    (r.behind read rest).behind more rest' = r.behind (read ++ more) rest' := by
  simp [Reader.behind, totalWidth_append, Nat.add_assoc]

/-- What may stand behind an item: nothing that refuses the pattern or changes a repetition. -/
def Follows (rest : List Token) : Prop :=
  ∀ t ∈ rest.head?, t ≠ .dangling ∧ t ≠ .plain '?' ∧ t ≠ .plain '+'

theorem Follows.plain {c : Char} {rest : List Token} (hc : c ≠ '?' ∧ c ≠ '+') :
    Follows (.plain c :: rest) := by
  simpa [Follows] using hc

namespace Parse

variable {α β : Type} {r r' : Reader} {t : Token} {c : Char} {rest : List Token}

theorem run_bind_ok {p : Parse α} {f : α → Parse β} {a : α} (h : p.run r = .ok (a, r')) :
    (p >>= f).run r = (f a).run r' := by
  rw [StateT.run_bind, h, ok_bind]

theorem run_get (r : Reader) : (get : Parse Reader).run r = .ok (r, r) := rfl

theorem run_peek (r : Reader) : peek.run r = .ok (r.rest.head?, r) := rfl

theorem run_take (h : r.rest = t :: rest) (hrest : rest.head? ≠ some .dangling) :
    take.run r = .ok (some t, r.behind [t] rest) := by
  simp [take, h, hrest, Reader.behind, totalWidth]

theorem run_accept (h : r.rest = .plain c :: rest) (hrest : rest.head? ≠ some .dangling) :
    (accept c).run r = .ok (true, r.behind [.plain c] rest) := by
  have hnext : (nextIs c).run r = .ok (true, r) := by
    rw [nextIs, run_bind_ok (run_get r), h, List.head?_cons, beq_self_eq_true]
    rfl
  rw [accept, run_bind_ok hnext]
  exact run_bind_ok (run_take h hrest)

theorem run_accept_of_ne (h : r.rest.head? ≠ some (.plain c)) :
    (accept c).run r = .ok (false, r) := by
  have hnext : (nextIs c).run r = .ok (false, r) := by
    rw [nextIs, run_bind_ok (run_get r), beq_eq_false_iff_ne.2 h]
    rfl
  exact run_bind_ok hnext

end Parse

open Parse

theorem Follows.not_dangling {rest : List Token} (h : Follows rest) :
    rest.head? ≠ some .dangling := fun he => (h _ he).1 rfl

variable {r r' : Reader} {c : Char} {rest : List Token} {first : Bool} {done : List Node}
variable {fuel : Nat} {escapes : Escapes}

/-! ## Items -/

/-- Nothing is read at the end or before a closing parenthesis. -/
theorem run_items_end {verbose : Bool}
    (h : r.rest.head? = none ∨ r.rest.head? = some (.plain ')')) :
    (items escapes (fuel + 1) first verbose done).run r = .ok (.sequence done.reverse, r) := by
  rw [items, run_bind_ok (run_peek r)]
  rcases h with h | h
  · rw [h]
    rfl
  · rw [h]
    rfl

/-- The item that a character is by itself; the marks of sets, groups, choices and repetitions are
none. -/
def soloItem? (c : Char) : Option Node :=
  if c ∈ "|)[?*+\x7b(".toList then none
  else if c = '.' then some .any
  else if c = '^' then some (.anchor .lineStart)
  else if c = '$' then some (.anchor .lineEnd)
  else some (.code false c.toNat)

theorem run_items_plain {n : Node} (hc : soloItem? c = some n) (h : r.rest = .plain c :: rest)
    (hrest : rest.head? ≠ some .dangling) :
    (items escapes (fuel + 1) first false done).run r =
      (items escapes fuel first false (n :: done)).run (r.behind [.plain c] rest) := by
  have htake := run_take h hrest
  rw [items, run_bind_ok (run_peek r)]
  unfold soloItem? at hc
  split_ifs at hc with hmark hdot hstart hend <;> cases hc
  · simp [h, hdot ▸ htake, hdot]
  · simp [h, hstart ▸ htake, hstart]
  · simp [h, hend ▸ htake, hend]
  · simp only [String.reduceToList, List.mem_cons, List.not_mem_nil, or_false, not_or] at hmark
    simp [h, htake, hmark, hdot, hstart, hend]

/-- An escape is the item that it is read as. -/
theorem run_items_escaped {n : Node} {verbose : Bool}
    (hescape : ∀ r, (escapes.item c).run r = .ok (n, r))
    (h : r.rest = .escaped c :: rest) (hrest : rest.head? ≠ some .dangling) :
    (items escapes (fuel + 1) first verbose done).run r =
      (items escapes fuel first verbose (n :: done)).run (r.behind [.escaped c] rest) := by
  rw [items, run_bind_ok (run_peek r)]
  simp [h, run_take h hrest, hescape]

/-! ## Sets and repetitions -/

theorem run_setNode_allBut {start : Nat} (h : r.rest = .plain '^' :: .plain c :: .plain ']' :: rest)
    (hrest : rest.head? ≠ some .dangling) :
    (setNode escapes start).run r =
      .ok (.code true c.toNat, r.behind [.plain '^', .plain c, .plain ']'] rest) := by
  let behindCaret := r.behind [.plain '^'] (.plain c :: .plain ']' :: rest)
  let behindMember := r.behind [.plain '^', .plain c] (.plain ']' :: rest)
  have hcaret : (accept '^').run r = .ok (true, behindCaret) := run_accept h (by simp)
  have hmember : take.run behindCaret = .ok (some (.plain c), behindMember) := by
    rw [run_take rfl (by simp), Reader.behind_behind]
    rfl
  have hdash : (accept '-').run behindMember = .ok (false, behindMember) :=
    run_accept_of_ne (by simp [behindMember])
  have hclose : take.run behindMember =
      .ok (some (.plain ']'), r.behind [.plain '^', .plain c, .plain ']'] rest) := by
    rw [run_take rfl hrest, Reader.behind_behind]
    rfl
  simp [setNode, setItems, setBehind, setMembers, hcaret, hmember, hclose, hdash, Token.isPlain,
    behindCaret]
  rfl

/-- Anchors and repetitions are not repeated. -/
def Node.isRepeatable : Node → Bool
  | .anchor _ => false
  | .rep .. => false
  | _ => true

theorem run_repeatLast {mark low : Nat} {high : Option Nat} {item : Node}
    (hitem : item.isRepeatable = true) (hrest : Follows r.rest) :
    (repeatLast mark low high (item :: done)).run r =
      .ok (.rep .greedy low high item :: done, r) := by
  have hlazy : (accept '?').run r = .ok (false, r) :=
    run_accept_of_ne fun he => (hrest _ he).2.1 rfl
  have hpossessive : (accept '+').run r = .ok (false, r) :=
    run_accept_of_ne fun he => (hrest _ he).2.2 rfl
  cases item <;> simp_all [repeatLast, Node.isRepeatable]

/-- The set of all characters but one is an item. -/
theorem run_items_allBut
    (h : r.rest = .plain '[' :: .plain '^' :: .plain c :: .plain ']' :: rest)
    (hrest : rest.head? ≠ some .dangling) :
    (items escapes (fuel + 1) first false done).run r =
      (items escapes fuel first false (.code true c.toNat :: done)).run
        (r.behind [.plain '[', .plain '^', .plain c, .plain ']'] rest) := by
  have htake := run_take h (by simp)
  have hset : ∀ start, (setNode escapes start).run
      (r.behind [.plain '['] (.plain '^' :: .plain c :: .plain ']' :: rest)) =
        .ok (.code true c.toNat, r.behind [.plain '[', .plain '^', .plain c, .plain ']'] rest) := by
    intro start
    rw [run_setNode_allBut rfl hrest, Reader.behind_behind]
    rfl
  rw [items, run_bind_ok (run_peek r)]
  simp [h, htake, hset]

/-- A star or a plus repeats the item before it. -/
theorem run_items_repeat {low : Nat} {item : Node}
    (hmark : c = '*' ∧ low = 0 ∨ c = '+' ∧ low = 1) (hitem : item.isRepeatable = true)
    (h : r.rest = .plain c :: rest) (hrest : Follows rest) :
    (items escapes (fuel + 1) first false (item :: done)).run r =
      (items escapes fuel first false (.rep .greedy low none item :: done)).run
        (r.behind [.plain c] rest) := by
  have htake := run_take h hrest.not_dangling
  have hrepeat : ∀ mark,
      (repeatLast mark low none (item :: done)).run (r.behind [.plain c] rest) =
        .ok (.rep .greedy low none item :: done, r.behind [.plain c] rest) :=
    fun mark => run_repeatLast hitem hrest
  rw [items, run_bind_ok (run_peek r)]
  rcases hmark with ⟨rfl, rfl⟩ | ⟨rfl, rfl⟩
  · simp [h, htake, boundsFor, hrepeat]
  · simp [h, htake, boundsFor, hrepeat]

/-! ## Groups -/

/-- Without a bar, the only choice is the first. -/
theorem run_choices {top verbose : Bool} {n : Node}
    (h : (items escapes fuel top verbose []).run r = .ok (n, r'))
    (hbar : r'.rest.head? ≠ some (.plain '|')) :
    (choices escapes (fuel + 1) top verbose).run r = .ok (n, r') := by
  have hothers : (otherChoices escapes fuel top verbose).run r' = .ok ([], r') := by
    cases fuel with
    | zero =>
        rw [items] at h
        cases h
    | succ fuel =>
        rw [otherChoices, run_bind_ok (run_accept_of_ne hbar)]
        rfl
  rw [choices, run_bind_ok h, run_bind_ok hothers]
  rfl

theorem run_groupOpening_plain {start : Nat} (h : r.rest = .plain '?' :: .plain ':' :: rest)
    (hrest : rest.head? ≠ some .dangling) :
    (groupOpening start).run r =
      .ok (.plain .none .none, r.behind [.plain '?', .plain ':'] rest) := by
  let behindMark := r.behind [.plain '?'] (.plain ':' :: rest)
  have hmark : (accept '?').run r = .ok (true, behindMark) := run_accept h (by simp)
  have hcolon : take.run behindMark =
      .ok (some (.plain ':'), r.behind [.plain '?', .plain ':'] rest) := by
    rw [run_take rfl hrest, Reader.behind_behind]
    rfl
  simp [groupOpening, hmark, hcolon]

theorem run_closeParenthesis {start : Nat} (h : r.rest = .plain ')' :: rest)
    (hrest : rest.head? ≠ some .dangling) :
    (closeParenthesis start).run r = .ok ((), r.behind [.plain ')'] rest) := by
  rw [closeParenthesis, run_bind_ok (run_accept h hrest)]
  rfl

theorem run_groupItem_plain {content : Bool → Parse Node} {branches : Nat → Parse Node}
    {verbose inner : Bool} {start : Nat} {on off : Flags} {body : Node}
    (hinner : ((verbose || on.verbose) && !off.verbose) = inner)
    (hbody : (content inner).run r = .ok (body, r'))
    (hclose : r'.rest = .plain ')' :: rest) (hrest : rest.head? ≠ some .dangling) :
    (groupItem content branches verbose start (.plain on off)).run r =
      .ok (some (.group none on off body), r'.behind [.plain ')'] rest) := by
  rw [groupItem, hinner]
  exact (run_bind_ok hbody).trans (run_bind_ok (run_closeParenthesis hclose hrest))

/-- A group that remembers nothing is an item. -/
theorem run_items_group {inner : List Token} {body : Node}
    (h : r.rest = .plain '(' :: .plain '?' :: .plain ':' :: inner)
    (hinner : inner.head? ≠ some .dangling)
    (hbody : (choices escapes fuel false false).run
      (r.behind [.plain '(', .plain '?', .plain ':'] inner) = .ok (body, r'))
    (hclose : r'.rest = .plain ')' :: rest) (hrest : rest.head? ≠ some .dangling) :
    (items escapes (fuel + 1) first false done).run r =
      (items escapes fuel first false (.group none .none .none body :: done)).run
        (r'.behind [.plain ')'] rest) := by
  have htake := run_take h (by simp)
  have hopening : ∀ start, (groupOpening start).run
      (r.behind [.plain '('] (.plain '?' :: .plain ':' :: inner)) =
        .ok (.plain .none .none, r.behind [.plain '(', .plain '?', .plain ':'] inner) := by
    intro start
    rw [run_groupOpening_plain rfl hinner, Reader.behind_behind]
    rfl
  have hgroup : ∀ branches start, (groupItem (choices escapes fuel false) branches false start
      (.plain .none .none)).run (r.behind [.plain '(', .plain '?', .plain ':'] inner) =
        .ok (some (.group none .none .none body), r'.behind [.plain ')'] rest) :=
    fun _ _ => run_groupItem_plain rfl hbody hclose hrest
  rw [items, run_bind_ok (run_peek r)]
  simp [h, htake, hopening, hgroup]

end FolderTag.Regex
