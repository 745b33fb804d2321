import SmokeSuite.Yaml.Tag
import SmokeSuite.Yaml.Token

namespace SmokeSuite.Yaml

inductive Tree where
  | scalar (place : Place) (tag : Option Tag) (style : Style) (text : String)
  | sequence (place : Place) (tag : Option Tag) (items : List Tree)
  /-- Each entry has a label for messages, which is the text of a key that is written in place. -/
  | mapping (place : Place) (tag : Option Tag) (entries : List (Option String × Tree × Tree))
  /-- Where the text breaks off. -/
  | cut
  deriving Inhabited

namespace Tree

def tag : Tree → Option Tag
  | .scalar _ tag .. => tag
  | .sequence _ tag _ => tag
  | .mapping _ tag _ => tag
  | .cut => none

def localName? (t : Tree) : Option String := t.tag.bind Tag.localName?

/-- Whether a tree is a plain scalar without text, which stands for any empty collection. -/
def isMissing : Tree → Bool
  | .scalar _ _ .plain "" => true
  | _ => false

end Tree

end SmokeSuite.Yaml
