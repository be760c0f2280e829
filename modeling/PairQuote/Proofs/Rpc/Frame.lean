import PairQuote.Proofs.Rpc.Body
import PairQuote.Proofs.Rpc.Call
import PairQuote.Rpc.Node

/-! # Framed replies

A node frames what it says in an object with the version and the number of the request.  The
two members in front are read for what they are, so a frame is read by reading the member that
it is put around (`Reply.members?_frame`).

Two facts follow.  The number of the request does not matter, whatever the frame is put around
(`Reply.ofBody?_frame_congr`); and a string that is framed as a result is read as that result
(`Reply.ofBody?_frame_str`), so that a request which is answered so brings the string
(`ScriptedReply.brings_result`).
-/
namespace PairQuote.Rpc

open Json (quotedRow skipBlanks)

variable {id id' : Nat}

/-! ## The text of a frame -/

/-- The member that a frame is put around, up to the end of the frame. -/
def framedRow (name : String) (value : Json) : List Char :=
  quotedRow name (':' :: (value.text.toList ++ ['\x7d']))

theorem toList_text_frame (id : Nat) (name : String) (value : Json) :
    (frame id name value).text.toList = '\x7b' :: quotedRow "jsonrpc" (':' :: quotedRow "2.0"
      (',' :: quotedRow "id" (':' :: (Text.digits 10 id ++ ',' :: framedRow name value)))) := by
  have hid : Text.integer id = String.ofList (Text.digits 10 id) := by
    unfold Text.integer
    rw [if_neg (by omega)]
    rfl
  simp [frame, Json.text, Json.membersText, Json.quoted, hid, quotedRow, framedRow]

namespace Reply

/-- The two members in front are read for what they are. -/
theorem readMembers_frame (hid : id < UInt64.size) (most : Nat) (row : List Char) :
    readMembers (most + 2) (quotedRow "jsonrpc" (':' :: quotedRow "2.0"
      (',' :: quotedRow "id" (':' :: (Text.digits 10 id ++ ',' :: row))))) =
      (readMembers most row).bind fun (members, rest) =>
        some (("jsonrpc", .str "2.0") :: ("id", .int id) :: members, rest) := by
  have hends : Json.EndsNumber (',' :: row) := by
    intro c hc
    obtain rfl := Option.some.inj hc
    decide
  rw [readMembers_written (by decide) (readValueOf_version (by decide) _),
    readMembers_written (by decide)
      (readValueOf_other (by decide) (Json.readValue_digits hid hends)), Option.bind_assoc]
  rfl

/-- **A frame is read by reading the member that it is put around.** -/
theorem members?_frame (hid : id < UInt64.size) (name : String) (value : Json) :
    members? (frame id name value).text =
      (readMembers 2 (framedRow name value)).bind fun (members, rest) =>
        if (skipBlanks rest).isEmpty then
          some (("jsonrpc", .str "2.0") :: ("id", .int id) :: members) else none := by
  unfold members?
  rw [toList_text_frame, Json.skipBlanks_of_visible (by decide),
    after?_singleton_eq_some_iff.mpr rfl]
  show (readMembers (2 + 2) _).bind _ = _
  rw [readMembers_frame hid, Option.bind_assoc]
  rfl

end Reply

/-! ## What a frame says -/

namespace Reply

/-- The members in front decide nothing but that there is a version and a number. -/
theorem ofMembers?_number (id : Nat) (members : List (String × Json)) :
    ofMembers? (("jsonrpc", .str "2.0") :: ("id", .int id) :: members) =
      ofMembers? (("jsonrpc", .str "2.0") :: ("id", .int 0) :: members) := by
  have hnumber : (guard (0 ≤ (id : Int)) : Option Unit) = guard (0 ≤ (0 : Int)) := by
    rw [guard, guard, if_pos (Int.natCast_nonneg id), if_pos (Int.le_refl 0)]
  unfold ofMembers?
  refine Option.bind_congr fun _ _ => ?_
  exact congrArg (Option.bind · _) hnumber

/-- **Which request a frame is for does not matter.** -/
theorem ofBody?_frame_congr (hid : id < UInt64.size) (hid' : id' < UInt64.size) (name : String)
    (value : Json) :
    ofBody? (frame id name value).text = ofBody? (frame id' name value).text := by
  unfold ofBody?
  rw [members?_frame hid, members?_frame hid', Option.bind_assoc, Option.bind_assoc]
  refine Option.bind_congr ?_
  rintro ⟨members, rest⟩ -
  dsimp only
  split
  · rw [Option.bind_some, Option.bind_some, ofMembers?_number id, ofMembers?_number id']
  · rfl

/-- **A string that is framed as a result is read as that result.** -/
theorem ofBody?_frame_str (hid : id < UInt64.size) (text : String) :
    ofBody? (frame id "result" (.str text)).text = some (.result (.str text)) := by
  have hrow : framedRow "result" (.str text) =
      quotedRow "result" (':' :: quotedRow text ['\x7d']) := by
    simp [framedRow, Json.text, Json.quoted, quotedRow]
  have hread : readMembers 2 (framedRow "result" (.str text)) =
      some ([("result", .str text)], []) := by
    rw [hrow]
    exact readMembers_last (by decide)
      (readValueOf_other (by decide) (Json.readValue_quoted text _))
  unfold ofBody?
  rw [members?_frame hid, hread, Option.bind_some]
  show ofMembers? (("jsonrpc", .str "2.0") :: ("id", .int id) :: [("result", .str text)]) = _
  rw [ofMembers?_number]
  rfl

end Reply

/-- **A request that is answered with a string brings it.** -/
theorem ScriptedReply.brings_result (request : Request) (text : String) :
    ((ScriptedReply.result (.str text)).delivery request).Brings text := by
  obtain ⟨members, hmembers, hbears⟩ :=
    Reply.ofBody?_eq_result_iff.mp (Reply.ofBody?_frame_str request.id.toNat_lt text)
  exact ⟨_, members, rfl, hmembers, hbears⟩

end PairQuote.Rpc
