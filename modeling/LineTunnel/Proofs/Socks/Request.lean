import LineTunnel.Proofs.Framing.Segments
import LineTunnel.Proofs.Socks.Conversation
import LineTunnel.Socks.Request

/-! What a version 4 proxy makes of the request that opens a negotiation. The address and the port
always come through. The user id ends at its first zero byte, so it comes through unless it holds
one; what stands behind that byte is left over, and the proxy takes it for what the application
says. -/

namespace LineTunnel.Socks

namespace Frame

theorem exists_cutAtZero {bs : Bytes} (h : 0 ∈ bs) :
    ∃ front back, cutAtZero bs = some (front, back) ∧ 0 ∉ front ∧ bs = front ++ 0 :: back := by
  induction bs with
  | nil => cases h
  | cons b bs ih =>
    by_cases hzero : b = 0
    · subst hzero
      exact ⟨[], bs, rfl, List.not_mem_nil, rfl⟩
    · obtain ⟨front, back, hcut, hfront, rfl⟩ :=
        ih ((List.mem_cons.1 h).resolve_left (Ne.symm hzero))
      refine ⟨b :: front, back, ?_, ?_, rfl⟩
      · rw [cutAtZero, if_neg hzero, hcut]
        rfl
      · exact fun hmem => (List.mem_cons.1 hmem).elim (hzero ·.symm) hfront

theorem readByAddress_connectByAddress (ip : Ipv4) (port : UInt16) (user : String) :
    readByAddress (connectByAddress ip port user) =
      (cutAtZero (utf8 user ++ [0])).map fun (name, rest) => (⟨ip, port, name⟩, rest) := by
  change (if (4 : UInt8) = 4 ∧ (1 : UInt8) = 1 then
    (cutAtZero (utf8 user ++ [0])).map fun (name, rest) =>
      ((⟨ip, ofBigEndian (port >>> 8).toUInt8 port.toUInt8, name⟩ : AddressRequest), rest)
    else none) = _
  rw [ofBigEndian_bytes, if_pos ⟨rfl, rfl⟩]

end Frame

variable {lookup : NameLookup} {me : LocalUser} {server : Server} {host : String} {port : UInt16}
  {offer : Bool} {out out' : ByteQueue} {n : Negotiation} {ip : Ipv4} {user : String}

theorem Server.userId_of_user (huser : server.user = some user) (hne : user ≠ "") :
    server.userId = .given user := by
  have hkept : server.user.filter (· != "") = some user := by
    rw [huser]
    exact if_pos (bne_iff_ne.2 hne)
  rw [Server.userId, hkept]

theorem Negotiation.openingRequest_of_user (hversion : server.version = .v4)
    (huser : server.user = some user) (hne : user ≠ "") (hhost : Ipv4.parse host = some ip) :
    openingRequest lookup me server host port offer =
      .ok (Frame.connectByAddress ip port user) := by
  have hresolve : lookup.resolve host = .ok ip := by
    rw [NameLookup.resolve, hhost]
  unfold openingRequest
  rw [hversion, hresolve, Server.userId_of_user huser hne]
  rfl

/-- The proxy reads exactly what was meant, and nothing is left over, just if the user id holds no
zero byte. Whatever it holds, it ends at its first zero byte, and all that stands behind that is
left over. -/
theorem readByAddress_start_iff (hversion : server.version = .v4)
    (huser : server.user = some user) (hne : user ≠ "") (hhost : Ipv4.parse host = some ip)
    (hstart : Negotiation.start lookup me server host port offer out = .ok (n, out')) :
    ∃ request, out'.bytes = out.bytes ++ request ∧
      (Frame.readByAddress request = some (⟨ip, port, utf8 user⟩, []) ↔ 0 ∉ utf8 user) ∧
      ∃ name rest, Frame.readByAddress request = some (⟨ip, port, name⟩, rest) ∧ 0 ∉ name ∧
        utf8 user ++ [0] = name ++ 0 :: rest := by
  obtain ⟨name, rest, hcut, hname, hsplit⟩ :=
    Frame.exists_cutAtZero (List.mem_append_right (utf8 user) (List.mem_singleton_self 0))
  have hread : Frame.readByAddress (Frame.connectByAddress ip port user) =
      some (⟨ip, port, name⟩, rest) := by
    rw [Frame.readByAddress_connectByAddress, hcut]
    rfl
  obtain ⟨request, hrequest, happend, -⟩ := Negotiation.start_cases hstart
  cases (Negotiation.openingRequest_of_user hversion huser hne hhost).symm.trans hrequest
  refine ⟨_, ByteQueue.bytes_append happend, ⟨?_, ?_⟩, name, rest, hread, hname, hsplit⟩
  · intro hmeant
    cases hread.symm.trans hmeant
    exact hname
  · intro hclean
    obtain ⟨rfl, rfl⟩ := Framing.cut_unique hclean hname hsplit
    exact hread

set_option maxRecDepth 4000 in
theorem readByAddress_start_of_plain_user :
    let server : Server := { name := "p", port := 1080, version := .v4, user := some "courier" }
    let n : Negotiation := { stage := .v4, host := "127.0.0.1", port := 7902 }
    let request : Bytes := [4, 1, 30, 222, 127, 0, 0, 1, 99, 111, 117, 114, 105, 101, 114, 0]
    let out : ByteQueue := ⟨request, List.replicate 240 0, ByteQueue.writeCeiling⟩
    Negotiation.start (fun _ => .error .hostNotFound) ⟨0, none⟩ server "127.0.0.1" 7902 false
        .forWriting = .ok (n, out) ∧
      Frame.readByAddress request = some (⟨⟨127, 0, 0, 1⟩, 7902, utf8 "courier"⟩, []) := by
  intro server n request out
  have hstart : Negotiation.start (fun _ => .error .hostNotFound) ⟨0, none⟩ server "127.0.0.1" 7902
      false .forWriting = .ok (n, out) := by with_unfolding_all rfl
  have hhost : Ipv4.parse "127.0.0.1" = some ⟨127, 0, 0, 1⟩ := rfl
  obtain ⟨_, hqueued, hmeant, -⟩ := readByAddress_start_iff rfl rfl (by decide) hhost hstart
  cases hqueued
  exact ⟨hstart, hmeant.2 (by decide)⟩

set_option maxRecDepth 4000 in
/-- What stands behind a zero byte in the user id is left over for the application. -/
theorem not_readByAddress_start_of_zero :
    let server : Server := { name := "p", port := 1080, version := .v4, user := some "a\x00b" }
    let n : Negotiation := { stage := .v4, host := "127.0.0.1", port := 7902 }
    let request : Bytes := [4, 1, 30, 222, 127, 0, 0, 1, 97, 0, 98, 0]
    let out : ByteQueue := ⟨request, List.replicate 244 0, ByteQueue.writeCeiling⟩
    Negotiation.start (fun _ => .error .hostNotFound) ⟨0, none⟩ server "127.0.0.1" 7902 false
        .forWriting = .ok (n, out) ∧
      Frame.readByAddress request = some (⟨⟨127, 0, 0, 1⟩, 7902, utf8 "a"⟩, utf8 "b" ++ [0]) ∧
      Frame.readByAddress request ≠ some (⟨⟨127, 0, 0, 1⟩, 7902, utf8 "a\x00b"⟩, []) := by
  intro server n request out
  exact ⟨by with_unfolding_all rfl, by decide +kernel, by decide +kernel⟩

end LineTunnel.Socks
