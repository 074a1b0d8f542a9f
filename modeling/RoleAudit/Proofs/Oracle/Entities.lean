import RoleAudit.Oracle.Static
import RoleAudit.Proofs.Syntax.Commented
import RoleAudit.Proofs.Syntax.Shift
import RoleAudit.Proofs.Tables

/-!
# Entities of a service class

The entity of a method is read from the first body of its name in a source, with the properties of
the whole source. When this is what the class of the service itself shows:

- `Node.preorder_split`: the nodes of a subtree stand together;
- `ownBodies`, `ownEntity`: the bodies of the methods that a class has itself, and the entity that
  the class shows for one of them;
- `entityUsed_congr`: a body asks for the properties that it uses only;
- `ShowsItself`: no other body of the name comes first, and the properties that the body uses mean
  the same in the whole source as in the class;
- `entities_ofClass`: the body that decides, and the sources in which the class decides alone.
-/

namespace RoleAudit

open RoleAudit.Syntax

/-! ## Subtrees -/

namespace Syntax
namespace Node

mutual

/-- The nodes of a subtree stand together among the nodes of a tree. -/
theorem preorder_split {c : Node} : ∀ {n : Node}, c ∈ n.preorder →
    ∃ before after, n.preorder = before ++ c.preorder ++ after
  | .mk kind role start line text children, h => by
    rw [preorder_eq, List.mem_cons] at h
    rcases h with rfl | hbelow
    · exact ⟨[], [], by simp⟩
    · rcases preorderAll_split hbelow with ⟨before, after, hsplit⟩
      refine ⟨.mk kind role start line text children :: before, after, ?_⟩
      rw [preorder_eq, hsplit]
      simp

theorem preorderAll_split {c : Node} : ∀ {ns : List Node}, c ∈ preorderAll ns →
    ∃ before after, preorderAll ns = before ++ c.preorder ++ after
  | [], h => absurd h (by simp [preorderAll])
  | n :: rest, h => by
    rw [preorderAll, List.mem_append] at h
    rcases h with hfirst | hlater
    · rcases preorder_split hfirst with ⟨before, after, hsplit⟩
      refine ⟨before, after ++ preorderAll rest, ?_⟩
      rw [preorderAll, hsplit]
      simp
    · rcases preorderAll_split hlater with ⟨before, after, hsplit⟩
      refine ⟨n.preorder ++ before, after, ?_⟩
      rw [preorderAll, hsplit]
      simp

end

theorem mem_preorder_of_mem_ofKind {n m : Node} {kind : Kind} (h : m ∈ n.ofKind kind) :
    m ∈ n.preorder := by
  rw [ofKind, search_eq] at h
  exact List.mem_of_mem_filter h

end Node
end Syntax

/-! ## Bodies -/

/-- The name and the body of a node that is a method with a body. -/
def bodyOf? (n : Node) : Option (String × Node) :=
  if n.kind == .method then namedBody? n else none

theorem methodBodies_eq (root : Node) : methodBodies root = root.preorder.filterMap bodyOf? := by
  rw [methodBodies, Node.ofKind, Node.search_eq, List.filterMap_filter]
  rfl

/-- The bodies below a node stand together among the bodies of a source. -/
theorem methodBodies_split {root c : Node} (h : c ∈ root.preorder) :
    ∃ before after, methodBodies root = before ++ methodBodies c ++ after := by
  rcases Node.preorder_split h with ⟨before, after, hsplit⟩
  refine ⟨before.filterMap bodyOf?, after.filterMap bodyOf?, ?_⟩
  rw [methodBodies_eq, methodBodies_eq, hsplit, List.filterMap_append, List.filterMap_append]

/-- The names and the texts of the bodies of the methods that a class has itself. -/
def ownBodies (c : Node) : List (String × String) :=
  (c.child? .body).elim [] fun b =>
    (b.children.filterMap bodyOf?).map fun (name, body) => (name, body.text)

/-- A class has the same bodies wherever it stands. -/
theorem ownBodies_shift (places lines : Nat) (c : Node) :
    ownBodies (c.shift places lines) = ownBodies c := by
  have hbody : ∀ n : Node, bodyOf? (n.shift places lines) =
      (bodyOf? n).map fun entry => (entry.1, entry.2.shift places lines) := by
    intro n
    unfold bodyOf? namedBody?
    rw [Node.kind_shift, Node.child?_shift, Node.childText_shift]
    split
    · cases n.child? .body with
      | none => rfl
      | some b =>
          by_cases hnone : (n.childText .name).isEmpty = true
          · simp [hnone]
          · simp [hnone]
    · rfl
  -- the bodies of the members are shifted with the body of the class
  unfold ownBodies
  rw [Node.child?_shift]
  cases c.child? .body with
  | none => rfl
  | some b =>
      rw [Option.map_some, Option.elim_some, Option.elim_some, Node.children_shift,
        List.filterMap_map, List.map_filterMap, List.map_filterMap]
      congr 1
      funext n
      rw [Function.comp_apply, hbody, Option.map_map]
      cases bodyOf? n with
      | none => rfl
      | some entry => simp

/-! ## Properties -/

/-- The properties that a body uses. -/
def usedProperties (body : String) : List String :=
  occurrences (measured usedProperty?) 0 body.toList

/-- A property holds the entity of its last type in a source, or else of its first injection. -/
theorem lookup_typedProperties (source p : String) :
    (typedProperties source).lookup p =
      ((occurrences (measured typedProperty?) 0 source.toList).reverse.lookup p).or
        ((occurrences (measured injectedProperty?) 0 source.toList).lookup p) := by
  unfold typedProperties
  dsimp only
  rw [lookup_foldl_addMissing, lookup_tableOf]

/-- A body asks for the entities of the properties that it uses only. -/
theorem entityUsed_congr {typed typed' : List (String × String)} {body : String}
    (h : ∀ p ∈ usedProperties body, typed'.lookup p = typed.lookup p) :
    entityUsed typed' body = entityUsed typed body := by
  have hfirst : (usedProperties body).findSome? (fun p => typed'.lookup p) =
      (usedProperties body).findSome? fun p => typed.lookup p := by
    generalize usedProperties body = used at h
    induction used with
    | nil => rfl
    | cons p rest ih =>
        rw [List.findSome?_cons, List.findSome?_cons, h p List.mem_cons_self,
          ih fun q hq => h q (List.mem_cons_of_mem p hq)]
  unfold entityUsed
  dsimp only
  rw [usedProperties] at hfirst
  rw [hfirst]

/-! ## What a class shows -/

/-- The entity that a class itself shows for a method: by its own body and its own properties. -/
def ownEntity (c : Node) (method : String) : String :=
  (((ownBodies c).lookup method).map (entityUsed (typedProperties c.text))).getD ""

/--
A source shows of a method what a class in it shows itself: the first body of its name is the own
one, and the properties that this body uses hold the same entities in the source as in the class.
-/
structure ShowsItself (source : String) (c : Node) (method : String) : Prop where
  placed : c ∈ (Node.ofSource source).preorder
  first : ((methodBodies (Node.ofSource source)).lookup method).map Node.text =
    (ownBodies c).lookup method
  properties : ∀ body, (ownBodies c).lookup method = some body → ∀ p ∈ usedProperties body,
    (typedProperties source).lookup p = (typedProperties c.text).lookup p

/-- The first body of a method's name decides, with the properties of the whole source. -/
theorem lookup_entitiesRead {methods : List String} {m : String} (h : m ∈ methods)
    (source : String) :
    (entitiesRead methods source).lookup m =
      some ((((methodBodies (Node.ofSource source)).lookup m).map fun b =>
        entityUsed (typedProperties source) b.text).getD "") :=
  lookup_tableOf_map _ h

theorem ShowsItself.lookup_eq_ownEntity {source : String} {c : Node} {m : String}
    (h : ShowsItself source c m) {methods : List String} (hm : m ∈ methods) :
    (entitiesRead methods source).lookup m = some (ownEntity c m) := by
  have hfirst := h.first
  rw [lookup_entitiesRead hm, ownEntity, ← hfirst]
  cases hbody : (methodBodies (Node.ofSource source)).lookup m with
  | none => rfl
  | some b =>
      rw [hbody, Option.map_some] at hfirst
      simp only [Option.map_some, Option.getD_some]
      rw [entityUsed_congr (h.properties b.text hfirst.symm)]

/--
For every source and every class in it, the bodies of the class stand together among the bodies of
the source. The entity of a method is that of the first body of its name, with the properties of the
whole source: of one before the class, if there is one, or else of the first one in the class,
whatever stands after it. A property holds the entity of its last type in the source, or else of its
first injection. Where the source shows of a method what the class shows itself, the answer is that
of the class alone, and so it is the same in every such source that has the class, wherever it
stands there.
-/
theorem entities_ofClass (source : String) (c : Node) (hc : c ∈ (Node.ofSource source).preorder)
    (methods : List String) (m : String) (hm : m ∈ methods) :
    let answer := (entitiesRead methods source).lookup m
    (∃ before after, methodBodies (Node.ofSource source) = before ++ methodBodies c ++ after ∧
      (∀ b, before.lookup m = some b →
        answer = some (entityUsed (typedProperties source) b.text)) ∧
      (before.lookup m = none → ∀ b, (methodBodies c).lookup m = some b →
        answer = some (entityUsed (typedProperties source) b.text) ∧
        ((ownBodies c).lookup m = some b.text →
          (∀ p ∈ usedProperties b.text,
            (typedProperties source).lookup p = (typedProperties c.text).lookup p) →
          ShowsItself source c m)) ∧
      (before.lookup m = none → (methodBodies c).lookup m = none →
        answer = some (((after.lookup m).map fun b =>
          entityUsed (typedProperties source) b.text).getD ""))) ∧
    (ShowsItself source c m →
      answer = some (ownEntity c m) ∧
      ∀ source' c', c'.text = c.text → ownBodies c' = ownBodies c → ShowsItself source' c' m →
        (entitiesRead methods source').lookup m = answer) ∧
    (∀ p, (typedProperties source).lookup p =
      ((occurrences (measured typedProperty?) 0 source.toList).reverse.lookup p).or
        ((occurrences (measured injectedProperty?) 0 source.toList).lookup p)) ∧
    ∀ places lines, (c.shift places lines).text = c.text ∧
      ownBodies (c.shift places lines) = ownBodies c := by
  intro answer
  have hanswer : answer = some ((((methodBodies (Node.ofSource source)).lookup m).map fun b =>
      entityUsed (typedProperties source) b.text).getD "") := lookup_entitiesRead hm source
  refine ⟨?_, fun hshows => ⟨hshows.lookup_eq_ownEntity hm, ?_⟩, lookup_typedProperties source,
    fun places lines => ⟨Node.text_shift places lines c, ownBodies_shift places lines c⟩⟩
  · -- the first body of a name is one before the class, or in it, or behind it
    rcases methodBodies_split hc with ⟨before, after, hsplit⟩
    have hlookup : (methodBodies (Node.ofSource source)).lookup m =
        (before.lookup m).or (((methodBodies c).lookup m).or (after.lookup m)) := by
      rw [hsplit, List.lookup_append, List.lookup_append, Option.or_assoc]
    refine ⟨before, after, hsplit, fun b hb => ?_, fun hnone b hb => ⟨?_, fun hown hsame => ?_⟩,
      fun hnone hnone' => ?_⟩
    · rw [hanswer, hlookup, hb]
      rfl
    · rw [hanswer, hlookup, hnone, hb]
      rfl
    · refine ⟨hc, ?_, fun body hbody => ?_⟩
      · rw [hlookup, hnone, hb, hown]
        rfl
      · rw [hown] at hbody
        cases hbody
        exact hsame
    · rw [hanswer, hlookup, hnone, hnone']
      rfl
  · intro source' c' htext hbodies hshows'
    -- the own entity depends on the text of the class and on its bodies only
    have hown : ownEntity c' m = ownEntity c m := by
      unfold ownEntity
      rw [htext, hbodies]
    rw [hshows'.lookup_eq_ownEntity hm, hown]
    exact (hshows.lookup_eq_ownEntity hm).symm

/-- The class of a service. -/
def ledgerClass : String :=
  "class S\x7b@InjectModel(Account) a;get()\x7bthis.a.b()\x7d\x7d"

/-- The body of its method. -/
def ledgerBody : String := "\x7bthis.a.b()\x7d"

/-- The same class between an object with a method and a class that has the method as well. -/
def crowdedLedger : String :=
  "f(\x7bset()\x7b\x7d\x7d);" ++ ledgerClass ++ "class T\x7bget()\x7bthis.c.d\x7d\x7d"

theorem entities_ofClass_crowdedLedger :
    (entitiesRead ["get"] ledgerClass).lookup "get" = some "Account" ∧
      (entitiesRead ["get"] crowdedLedger).lookup "get" = some "Account" := by
  have halone : ((Node.ofSource ledgerClass).ofKind .classDeclaration).map
      (fun c => (c.text, ownBodies c)) = [(ledgerClass, [("get", ledgerBody)])] := by
    decide +kernel
  have hcrowded : (((Node.ofSource crowdedLedger).ofKind .classDeclaration).map
      (fun c => (c.text, ownBodies c))).head? = some (ledgerClass, [("get", ledgerBody)]) := by
    decide +kernel
  -- the class of both sources, with what it shows
  rw [List.head?_map, Option.map_eq_some_iff] at hcrowded
  rcases List.map_eq_singleton_iff.1 halone with ⟨c, hc, hshown⟩
  rcases hcrowded with ⟨c', hc', hshown'⟩
  rcases Prod.mk.inj hshown with ⟨htext, hbodies⟩
  rcases Prod.mk.inj hshown' with ⟨htext', hbodies'⟩
  have hplaced : c ∈ (Node.ofSource ledgerClass).preorder :=
    Node.mem_preorder_of_mem_ofKind (hc ▸ List.mem_singleton_self c)
  have hplaced' : c' ∈ (Node.ofSource crowdedLedger).preorder :=
    Node.mem_preorder_of_mem_ofKind (List.mem_of_head? hc')
  have hused : ∀ p ∈ usedProperties ledgerBody,
      (typedProperties crowdedLedger).lookup p = (typedProperties ledgerClass).lookup p := by
    decide +kernel
  have hshows : ShowsItself ledgerClass c "get" := by
    refine ⟨hplaced, ?_, fun body _ p _ => by rw [htext]⟩
    rw [hbodies]
    decide +kernel
  have hshows' : ShowsItself crowdedLedger c' "get" := by
    refine ⟨hplaced', ?_, fun body hbody p hp => ?_⟩
    · rw [hbodies']
      decide +kernel
    · rw [hbodies'] at hbody
      obtain rfl : ledgerBody = body := Option.some.inj hbody
      rw [htext']
      exact hused p hp
  rcases (entities_ofClass ledgerClass c hplaced ["get"] "get" (by decide)).2.1 hshows with
    ⟨halone, hsame⟩
  have hentity : ownEntity c "get" = "Account" := by
    rw [ownEntity, hbodies, htext]
    decide +kernel
  rw [hentity] at halone
  have hboth := hsame crowdedLedger c' (htext'.trans htext.symm) (hbodies'.trans hbodies.symm)
    hshows'
  exact ⟨halone, hboth.trans halone⟩

end RoleAudit
