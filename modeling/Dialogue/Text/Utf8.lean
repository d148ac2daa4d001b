/-! Texts in UTF-8: their sizes, and what is left of a text that is cut between two bytes. -/
namespace Dialogue.Text

def byteSize (cs : List Char) : Nat := cs.foldr (fun c n => c.utf8Size + n) 0

/-- The bytes that some characters take, one after the other. -/
def bytes (cs : List Char) : List UInt8 := cs.flatMap String.utf8EncodeChar

/-- The characters in a row of bytes. A byte with which no character begins is passed over. -/
def characters : List UInt8 → List Char
  | [] => []
  | b :: bs =>
    match (b :: bs).toByteArray.utf8DecodeChar? 0 with
    | some c => c :: characters (bs.drop (c.utf8Size - 1))
    | none => characters bs
termination_by bs => bs.length
decreasing_by all_goals simp only [List.length_drop, List.length_cons]; omega

/-- What is left of a text that is cut after `room` bytes: what remains of a character at the cut
is dropped. -/
def truncate (s : String) (room : Nat) : String :=
  String.ofList (characters ((bytes s.toList).take room))

theorem byteSize_cons (c : Char) (cs : List Char) :
    byteSize (c :: cs) = c.utf8Size + byteSize cs := rfl

theorem byteSize_append (a b : List Char) : byteSize (a ++ b) = byteSize a + byteSize b := by
  induction a with
  | nil => simp [byteSize]
  | cons c cs ih => rw [List.cons_append, byteSize_cons, byteSize_cons, ih]; omega

end Dialogue.Text
