/-! A toolkit's text field: its text and a cursor that text is put in at. The field
itself is a parameter; what is relied on is stated as laws. -/

namespace GrumpyScreen.Lib

/-- The operations a screen calls on a text field. -/
class TextArea (T : Type) where
  create : T
  text : T → List UInt8
  atEnd : T → Prop
  addText : List UInt8 → T → T
  setText : List UInt8 → T → T
  cursorLast : T → T

/-- Text is added at the cursor, and the cursor stays behind what was added or set. -/
class LawfulTextArea (T : Type) [TextArea T] : Prop where
  text_create : TextArea.text (TextArea.create : T) = []
  atEnd_create : TextArea.atEnd (TextArea.create : T)
  text_addText (s : List UInt8) (t : T) :
    TextArea.atEnd t → TextArea.text (TextArea.addText s t) = TextArea.text t ++ s
  text_setText (s : List UInt8) (t : T) : TextArea.text (TextArea.setText s t) = s
  atEnd_setText (s : List UInt8) (t : T) : TextArea.atEnd (TextArea.setText s t)
  text_cursorLast (t : T) : TextArea.text (TextArea.cursorLast t) = TextArea.text t
  atEnd_cursorLast (t : T) : TextArea.atEnd (TextArea.cursorLast t)

attribute [simp] LawfulTextArea.text_create LawfulTextArea.atEnd_create
  LawfulTextArea.text_setText LawfulTextArea.atEnd_setText LawfulTextArea.text_cursorLast
  LawfulTextArea.atEnd_cursorLast

/-- The text as bytes and the cursor as a place between them. -/
structure Field where
  content : List UInt8 := []
  cursor : Nat := 0

instance : TextArea Field where
  create := {}
  text := Field.content
  atEnd t := t.cursor = t.content.length
  addText s t :=
    { content := t.content.take t.cursor ++ s ++ t.content.drop t.cursor
      cursor := t.cursor + s.length }
  setText s _ := { content := s, cursor := s.length }
  cursorLast t := { t with cursor := t.content.length }

instance : LawfulTextArea Field where
  text_create := rfl
  atEnd_create := rfl
  text_addText s t last := by
    have whole : t.cursor = t.content.length := last
    simp [TextArea.text, TextArea.addText, whole]
  text_setText _ _ := rfl
  atEnd_setText _ _ := rfl
  text_cursorLast _ := rfl
  atEnd_cursorLast _ := rfl

end GrumpyScreen.Lib
