import CheetahSignaling.DigestServer

/-! The client side of digest authentication. -/
namespace CheetahSignaling

open SipDigest

def SipDigest.validateToken (value : String) : Except DigestError Unit :=
  if value.toList.contains '\r' || value.toList.contains '\n' then .error (.malformed "digest value contains line break")
    else .ok ()

def SipDigest.validateOptional : Option String → Except DigestError Unit
  | some value => validateToken value
  | none => .ok ()

namespace DigestClient

def new : DigestClient := ⟨false,none,0⟩

def withAllowMd5 (client : DigestClient) (allow : Bool) : DigestClient := { client with allowMd5 := allow }

def withQop (client : DigestClient) (qop : Option DigestQop) : Except DigestError DigestClient :=
  if qop = some .authInt then .error .invalidQop else .ok { client with qop := qop }

variable (crypto : Crypto) (client : DigestClient)

variable (username password method uri : String) (challenge : DigestChallenge)

def respond (qop : Option DigestQop) (cnonce : Option String) (nc : Option Nat) : DigestResponse where
  username := username
  realm := challenge.realm
  nonce := challenge.nonce
  uri := uri
  response := crypto.computeResponse challenge.algorithm username challenge.realm password challenge.nonce
    (nc.getD 0) cnonce qop method uri
  cnonce := cnonce
  nc := nc
  qop := qop
  algorithm := some challenge.algorithm
  opaqueValue := challenge.opaqueValue

def authorize (cnonce : String) : Except DigestError (DigestResponse × DigestClient) := do
  validateToken username
  validateToken uri
  validateToken cnonce
  validateToken challenge.realm
  validateToken challenge.nonce
  validateOptional challenge.opaqueValue
  if challenge.algorithm = .md5 ∧ !client.allowMd5 then .error .algorithmNotAllowed
  else if challenge.qop = some .authInt then .error .invalidQop
  else
    let qop := challenge.qop.or client.qop
    if qop = some .authInt then .error .invalidQop
    else if qop = some .auth then do
      validateToken cnonce
      if client.nonceCount + 1 < 2 ^ 64 then
        .ok (respond crypto username password method uri challenge qop (some cnonce) (some (client.nonceCount + 1)),
          { client with nonceCount := client.nonceCount + 1 })
      else .error (.malformed "nonce count overflow")
    else .ok (respond crypto username password method uri challenge qop none none,client)

end DigestClient

end CheetahSignaling
