/-!
# Elements

The tree that a document stands for. An element has its name, its attributes, the text before its
first child element, its child elements, and the text between its end and what follows it in its
parent. Comments and processing instructions are no part of it.
-/

namespace RoleAudit
namespace Xml

/-- An element: name, attributes, text before the first child, children, text after the element. -/
inductive Element where
  | node (tag : String) (attributes : List (String × String)) (text : String)
      (children : List Element) (tail : String)
  deriving Inhabited

namespace Element

def tag : Element → String
  | node tag _ _ _ _ => tag

/-- The attributes with their values, named as elements are; declared namespaces are none. -/
def attributes : Element → List (String × String)
  | node _ attributes _ _ _ => attributes

def text : Element → String
  | node _ _ text _ _ => text

def children : Element → List Element
  | node _ _ _ children _ => children

def tail : Element → String
  | node _ _ _ _ tail => tail

def withTail (tail : String) : Element → Element
  | node tag attributes text children _ => node tag attributes text children tail

def childrenNamed (e : Element) (name : String) : List Element :=
  e.children.filter fun child => child.tag == name

def child? (e : Element) (name : String) : Option Element :=
  e.children.find? fun child => child.tag == name

end Element
end Xml
end RoleAudit
