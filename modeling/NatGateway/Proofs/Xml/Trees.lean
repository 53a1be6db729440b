import NatGateway.Proofs.Xml.Written

/-!
# Written trees

What is read from a tree of plain elements that was written as a document. Elements without
prefixes and attributes are read wherever the default namespace is the empty one, so a tree comes
back node by node, to any depth.
-/

namespace NatGateway.Xml

open NatGateway.Text (utf8Bytes)

/-- A tree of plain elements, each of which holds a text or other elements. -/
inductive Tree where
  | leaf (name text : String)
  | branch (name : String) (trees : List Tree)

namespace Tree

mutual

/-- A tree as it is written. -/
def written : Tree → String
  | .leaf name text => textElement name text
  | .branch name trees => enclosed name [] (writtenAll trees)

/-- Trees as they are written one after the other. -/
def writtenAll : List Tree → String
  | [] => ""
  | tree :: rest => tree.written ++ writtenAll rest

end

mutual

/-- The node that a tree is read back as. -/
def node : Tree → Node
  | .leaf name text => Content.textElementNode "" (name, text)
  | .branch name trees => .element ⟨name, none, none, []⟩ (nodes trees)

/-- The nodes that trees are read back as. -/
def nodes : List Tree → List Node
  | [] => []
  | tree :: rest => tree.node :: nodes rest

end

mutual

/-- Whether a tree can stand in a document. -/
def isReadable : Tree → Bool
  | .leaf name text => isXmlName name && isXmlText text
  | .branch name trees => isXmlName name && areReadable trees

/-- Whether trees can stand in a document. -/
def areReadable : List Tree → Bool
  | [] => true
  | tree :: rest => tree.isReadable && areReadable rest

end

mutual

/-- A tree is read wherever the default namespace is the empty one. -/
theorem readsAs_written {bindings : Bindings} (hbound : bindings.lookup "" = some "") :
    ∀ tree : Tree, tree.isReadable = true →
      Content.ReadsAs bindings tree.written [tree.node] true
  | .leaf name text => by
      intro h
      obtain ⟨hname, htext⟩ := (Bool.and_eq_true _ _).mp h
      rw [written, node, ← htext]
      exact Content.readsAs_textElement hbound hname text
  | .branch name trees => by
      intro h
      obtain ⟨hname, htrees⟩ := (Bool.and_eq_true _ _).mp h
      have hreadable : (⟨none, name⟩ : QName).isReadable = true := hname
      have hresolve : Tag.resolve? bindings ⟨none, name⟩ [] = some (⟨name, none, none, []⟩, bindings) :=
        Content.resolve?_plain hbound
      have hread := (readsAs_writtenAll hbound trees htrees).enclosed hreadable (by simp) rfl hresolve
      rw [written, node]
      exact hread

/-- Trees are read one by one, in their order. -/
theorem readsAs_writtenAll {bindings : Bindings} (hbound : bindings.lookup "" = some "") :
    ∀ trees : List Tree, areReadable trees = true →
      Content.ReadsAs bindings (writtenAll trees) (nodes trees) true
  | [] => fun _ => Content.readsAs_empty bindings
  | tree :: rest => by
      intro h
      obtain ⟨htree, hrest⟩ := (Bool.and_eq_true _ _).mp h
      exact (readsAs_written hbound tree htree).append (readsAs_writtenAll hbound rest hrest)

end

/-- A tree that was written as a document is read back as its root. -/
theorem ofBytes?_written {name : String} {trees : List Tree}
    (h : (branch name trees).isReadable = true) :
    Element.ofBytes? (utf8Bytes (writtenDeclaration ++ (branch name trees).written)) =
      some ⟨⟨name, none, none, []⟩, nodes trees⟩ := by
  obtain ⟨hname, htrees⟩ := (Bool.and_eq_true _ _).mp h
  have hreadable : (⟨none, name⟩ : QName).isReadable = true := hname
  have hbound : Bindings.base.lookup "" = some "" := rfl
  rw [written]
  exact Element.ofBytes?_enclosed hreadable (by simp) rfl (Content.resolve?_plain hbound)
    (readsAs_writtenAll hbound trees htrees)

end Tree

end NatGateway.Xml
