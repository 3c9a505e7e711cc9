import ParseFailure.Token.Basic

/-!
Chains of tokens. The first token is the last one that the grammar accepted; each token may name a
successor, and following successors may end or run in a circle.
-/

namespace ParseFailure

structure Node where
  token : Token
  next : Option Nat
  deriving DecidableEq, Repr

structure Chain where
  nodes : List Node
  /-- There always is a token that the grammar accepted last. -/
  started : nodes ≠ []
  deriving DecidableEq, Repr

namespace Chain

/-- Links each token to the one after it, and the last one to the given position. -/
def ofTokens (first : Token) (rest : List Token) (loop : Option Nat) : Chain where
  nodes := (first :: rest).zipIdx.map fun (token, i) =>
    ⟨token, if i + 1 < (first :: rest).length then some (i + 1) else loop⟩
  started := by simp

def token? (chain : Chain) (i : Nat) : Option Token := chain.nodes[i]?.map Node.token

def next? (chain : Chain) (i : Nat) : Option Nat := chain.nodes[i]?.bind Node.next

/-- The position reached from another one over a number of successors. -/
def walk (chain : Chain) : Nat → Nat → Option Nat
  | 0, i => if i < chain.nodes.length then some i else none
  | steps + 1, i => (chain.next? i).bind (chain.walk steps)

/-- The position reached from the last accepted token over a number of successors. -/
def reach (chain : Chain) (steps : Nat) : Option Nat := chain.walk steps 0

/-- The number of different tokens that following successors leads through. -/
def linked (chain : Chain) : Nat :=
  ((List.range chain.nodes.length).filterMap chain.reach).eraseDups.length

/-- The last token that the grammar accepted. -/
def current (chain : Chain) : Token := (chain.nodes.head chain.started).token

/-- The first token that was not accepted. -/
def successor (chain : Chain) : Option Token := (chain.next? 0).bind chain.token?

theorem modify_started (chain : Chain) (i : Nat) (change : Node → Node) :
    chain.nodes.modify i change ≠ [] := by
  rw [← List.length_pos_iff, List.length_modify, List.length_pos_iff]
  exact chain.started

def update (chain : Chain) (i : Nat) (change : Token → Token) : Chain where
  nodes := chain.nodes.modify i fun node => { node with token := change node.token }
  started := chain.modify_started i _

def link (chain : Chain) (i : Nat) (next : Option Nat) : Chain where
  nodes := chain.nodes.modify i fun node => { node with next := next }
  started := chain.modify_started i _

end Chain

end ParseFailure
