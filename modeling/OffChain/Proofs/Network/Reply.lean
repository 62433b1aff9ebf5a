import OffChain.Network.Node
import OffChain.Proofs.Json.Records
import OffChain.Proofs.Text.Utf8

/-!
# Texts in the replies of a node

A node says a text by its encoding: a word that says where the text begins, there a word with its
length, and then its bytes.  Whatever follows does not matter.

* `Network.Says`, `Network.IsSilent`: a node that says a text, and one that does not reply.
* `Network.infoText?_of_says`, `Network.infoText?_of_isSilent`: what the program takes from it.
-/

namespace OffChain

/-! ### Words -/

namespace Bytes

theorem length_ofNat (k n : Nat) : (ofNat k n).length = k := by
  induction k generalizing n with
  | zero => rfl
  | succ k ih => rw [ofNat, List.length_append, ih, List.length_singleton]

theorem toNat_concat (bs : Bytes) (b : UInt8) : toNat (bs ++ [b]) = 256 * toNat bs + b.toNat :=
  List.foldl_concat ..

theorem toNat_ofNat {k n : Nat} (h : n < 256 ^ k) : toNat (ofNat k n) = n := by
  induction k generalizing n with
  | zero =>
    rw [Nat.pow_zero, Nat.lt_one_iff] at h
    rw [h]
    rfl
  | succ k ih =>
    have hquotient : n / 256 < 256 ^ k := by
      rw [Nat.pow_succ, Nat.mul_comm] at h
      exact Nat.div_lt_of_lt_mul h
    rw [ofNat, toNat_concat, ih hquotient, UInt8.toNat_ofNat_of_lt' (Nat.mod_lt n (by decide)),
      Nat.div_add_mod]

/-- A word is read as its number, whatever follows. -/
theorem toNat_take_word {n : Nat} (h : n < 256 ^ 32) (rest : Bytes) :
    toNat ((ofNat 32 n ++ rest).take 32) = n := by
  rw [List.take_left' (length_ofNat 32 n), toNat_ofNat h]

theorem drop_word (n : Nat) (rest : Bytes) : (ofNat 32 n ++ rest).drop 32 = rest :=
  List.drop_left' (length_ofNat 32 n)

end Bytes

/-! ### Call data -/

namespace Network

/-- The encoding of a text as call data. -/
def encodingOf (text : String) : Bytes :=
  Bytes.ofNat 32 32 ++ (Bytes.ofNat 32 (Text.bytesOf text).length ++ Text.bytesOf text)

/-- **Round trip**: the bytes of the text are found in its encoding. -/
theorem textBytes?_encodingOf {text : String} (h : (Text.bytesOf text).length < 256 ^ 32)
    (padding : Bytes) :
    textBytes? (encodingOf text ++ padding) = some (Text.bytesOf text) := by
  have hoffset : 32 < 256 ^ 32 := by decide
  simp only [textBytes?, encodingOf, List.append_assoc, Bytes.toNat_take_word hoffset,
    Bytes.drop_word, Bytes.toNat_take_word h, List.take_left]
  -- both words and all bytes of the text are there
  refine if_neg ?_
  simp only [List.length_append, Bytes.length_ofNat, Bool.or_eq_true, decide_eq_true_eq]
  omega

/-! ### Nodes -/

/-- The node says a text: it can be reached, and its reply is the encoding of the text. -/
structure Says (net : Network) (text : String) : Prop where
  /-- Requests get through. -/
  isUp : net.isUp = true
  /-- A word can hold the length of the text. -/
  fits : (Text.bytesOf text).length < 256 ^ 32
  /-- The reply. -/
  reply : ∃ padding, net.callReply = some (Bytes.toJson (encodingOf text ++ padding))

/-- The node does not reply: it cannot be reached, or it refuses the call. -/
inductive IsSilent (net : Network) : Prop
  | unreachable (h : net.isUp = false)
  | refusing (h : net.callReply = none)

variable {net : Network}

theorem infoText?_of_says {text : String} (h : net.Says text) : net.infoText? = some text := by
  obtain ⟨padding, hreply⟩ := h.reply
  rw [infoText?, if_pos h.isUp, hreply, Option.bind_some, Bytes.ofJson?_toJson, Option.bind_some,
    textBytes?_encodingOf h.fits, Option.map_some, Text.ofUtf8_bytesOf]

theorem infoText?_of_isSilent (h : net.IsSilent) : net.infoText? = none := by
  unfold infoText?
  cases h with
  | unreachable h => rw [h, if_neg Bool.false_ne_true]
  | refusing h =>
    rw [h]
    exact ite_self none

end Network

end OffChain
