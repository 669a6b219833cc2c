import DiceCalculator.Text.Listing
import DiceCalculator.Text.Quoted
import DiceCalculator.Token

/-!
# Parse trees

A tree keeps every token that its match took, in order: its leaves read from
left to right are a stretch of the token list. Punctuation is part of the tree
but carries no action and is not among the children of its parent.
-/

namespace DiceCalculator

/-- A parse tree whose nodes carry actions of type `α`. -/
inductive Tree (α : Type) where
  | leaf (action : α) (token : Token)
  | literal (token : Token)
  /-- The parts of a sequence, from left to right. -/
  | branch (action : α) (parts : List (Tree α))

namespace Tree

variable {α : Type}

section Equality

variable [DecidableEq α]

mutual

def decideEq : (tree other : Tree α) → Decidable (tree = other)
  | .leaf a x, .leaf b y =>
    decidable_of_decidable_of_iff (p := a = b ∧ x = y) (by rw [leaf.injEq])
  | .literal x, .literal y => decidable_of_decidable_of_iff (p := x = y) (by rw [literal.injEq])
  | .branch a parts, .branch b others =>
    have := decideEqOf parts others
    decidable_of_decidable_of_iff (p := a = b ∧ parts = others) (by rw [branch.injEq])
  | .leaf .., .literal _ | .leaf .., .branch .. | .literal _, .leaf .. | .literal _, .branch ..
  | .branch .., .leaf .. | .branch .., .literal _ => isFalse nofun

def decideEqOf : (parts others : List (Tree α)) → Decidable (parts = others)
  | [], [] => isTrue rfl
  | [], _ :: _ | _ :: _, [] => isFalse nofun
  | tree :: parts, other :: others =>
    have := decideEq tree other
    have := decideEqOf parts others
    decidable_of_decidable_of_iff (p := tree = other ∧ parts = others) (by rw [List.cons.injEq])

end

instance : DecidableEq (Tree α) :=
  decideEq

end Equality

def isLiteral : Tree α → Bool
  | .literal _ => true
  | _ => false

def children : Tree α → List (Tree α)
  | .branch _ parts => parts.filter (!·.isLiteral)
  | _ => []

mutual

def tokens : Tree α → List Token
  | .leaf _ token => [token]
  | .literal token => [token]
  | .branch _ parts => tokensOf parts

def tokensOf : List (Tree α) → List Token
  | [] => []
  | tree :: rest => tree.tokens ++ tokensOf rest

end

section Parts

variable (action : α) (first second third : Tree α)

theorem tokens_one : (branch action [first]).tokens = first.tokens := by
  simp [tokens, tokensOf]

theorem tokens_two : (branch action [first, second]).tokens = first.tokens ++ second.tokens := by
  simp [tokens, tokensOf]

theorem tokens_three :
    (branch action [first, second, third]).tokens =
      first.tokens ++ (second.tokens ++ third.tokens) := by
  simp [tokens, tokensOf]

end Parts

mutual

def size : Tree α → Nat
  | .leaf _ _ => 1
  | .literal _ => 1
  | .branch _ parts => totalSize parts

def totalSize : List (Tree α) → Nat
  | [] => 0
  | tree :: rest => tree.size + totalSize rest

end

mutual

theorem length_tokens (tree : Tree α) : tree.tokens.length = tree.size :=
  match tree with
  | .leaf _ _ => rfl
  | .literal _ => rfl
  | .branch _ parts => length_tokensOf parts

theorem length_tokensOf (parts : List (Tree α)) : (tokensOf parts).length = totalSize parts :=
  match parts with
  | [] => rfl
  | tree :: rest => by
    rw [tokensOf, totalSize, List.length_append, length_tokens tree, length_tokensOf rest]

end

/-- The text of the tree's first token; empty if it has none. -/
def text (tree : Tree α) : String :=
  match tree.tokens with
  | [] => ""
  | token :: _ => token.text

/-- The tree reached by going down to one child after another. -/
def descend? (tree : Tree α) : List Nat → Option (Tree α)
  | [] => some tree
  | index :: path => tree.children[index]?.bind (descend? · path)

/-- Where a node stands among the tokens. -/
structure Extent where
  depth : Nat
  start : Nat
  length : Nat
  isLiteral : Bool
  deriving DecidableEq

mutual

/-- The extents of the tree and of all below it, each node before its children, when the tree's
first token has the number `start`. -/
def layout (depth start : Nat) : Tree α → List Extent
  | .leaf _ _ => [⟨depth, start, 1, false⟩]
  | .literal _ => [⟨depth, start, 1, true⟩]
  | .branch _ parts =>
    ⟨depth, start, totalSize parts, false⟩ :: layoutOf (depth + 1) start parts

/-- The extents of trees in a row; those of punctuation are left out. -/
def layoutOf (depth start : Nat) : List (Tree α) → List Extent
  | [] => []
  | tree :: rest =>
    (if tree.isLiteral then [] else tree.layout depth start)
      ++ layoutOf depth (start + tree.size) rest

end

/-- A node in full, from its tokens and its children in full. -/
def inspectNode (tokens : List Token) (children : List String) : String :=
  "Node \x7b span: " ++ Text.bracketed (tokens.map fun token => Text.quoted token.text)
    ++ ", children: " ++ Text.bracketed children ++ " \x7d"

mutual

/-- The tree in full: at each node the texts of its tokens and its children. -/
def inspect : Tree α → String
  | .leaf _ token => inspectNode [token] []
  | .literal token => inspectNode [token] []
  | .branch _ parts => inspectNode (tokensOf parts) (inspectOf parts)

/-- The trees of a row in full, without punctuation. -/
def inspectOf : List (Tree α) → List String
  | [] => []
  | tree :: rest => if tree.isLiteral then inspectOf rest else tree.inspect :: inspectOf rest

end

end Tree

end DiceCalculator
