import Exosip.Auth.Digest
import Exosip.Auth.Realm

/-! `_eXosip_add_authentication_information`: the credentials of a request, for the stored
challenges of its call-id or for those of the last response. -/
namespace Exosip

open CString
open HttpAuths (callIdNumber)

/-- How the function ends, the table that it leaves, and the headers that it adds to the request:
to `authorizations` for the code 401, else to `proxy_authorizations`. -/
structure Authenticated where
  result : Result Unit
  httpAuths : HttpAuths
  added : List (Int × AuthorizationHeader)

namespace Authenticated

def fail (failure : Failure) (httpAuths : HttpAuths) : Authenticated := ⟨.error failure, httpAuths, []⟩

def after (code : Int) (aut : AuthorizationHeader) (rest : Authenticated) : Authenticated :=
  { rest with added := (code, aut) :: rest.added }

def behind (slot : Option HttpAuth) (rest : Authenticated) : Authenticated :=
  { rest with httpAuths := slot :: rest.httpAuths }

end Authenticated

/-- What a header is made of, beside the challenge. -/
structure Credentials where
  authinfo : AuthInfo
  uri : Str
  method : Str

namespace Credentials

/-- The credentials of a user for a realm, and the request that they are for. -/
def find (authinfos : List AuthInfo) (req : SipFields) (username : Str) (realm : Option Str) :
    Result Credentials := do
  match ← AuthInfo.findAuthenticationInfo authinfos username realm with
  | none => .error (.code osipNotfound)
  | some authinfo =>
      match req.reqUri with
      | none => .error (.code osipBadparameter)
      | some reqUri =>
          let uri ← SipFields.returnCode (osipUriToStr reqUri)
          .ok ⟨authinfo, uri, ← deref req.sipMethod⟩

variable (hash : HashFunctions)

def header (credentials : Credentials) (wa : WwwAuthenticate) (cNonce : Str) (iNonceCount : Int) :
    Result AuthorizationHeader :=
  Digest.createProxyAuthorizationHeader hash (some wa) credentials.uri
    (AuthInfo.field credentials.authinfo.userid) (some (AuthInfo.field credentials.authinfo.passwd))
    (some (AuthInfo.field credentials.authinfo.ha1)) credentials.method cNonce iNonceCount

end Credentials

variable (hash : HashFunctions) (authinfos : List AuthInfo) (req : SipFields) (username : Str)

/-- The loop over the stored challenges. The count of an entry is raised before the header is
made. -/
def answerStored : HttpAuths → Authenticated
  | [] => ⟨.ok (), [], []⟩
  | none :: slots => (answerStored slots).behind none
  | some httpAuth :: slots =>
      match callIdNumber (some req) with
      | none => .fail .fault (some httpAuth :: slots)
      | some callId =>
          if osipStrcasecmp httpAuth.pszCallId callId then
            match Credentials.find authinfos req username httpAuth.wa.realm with
            | .error failure => .fail failure (some httpAuth :: slots)
            | .ok credentials =>
                let counted := { httpAuth with iNonceCount := httpAuth.iNonceCount + 1 }
                match credentials.header hash counted.wa counted.pszCNonce counted.iNonceCount with
                | .error failure => .fail failure (some counted :: slots)
                | .ok aut => ((answerStored slots).behind (some counted)).after counted.answerCode aut
          else (answerStored slots).behind (some httpAuth)

/-- Whether the challenge is kept: for some methods, and for any request within a dialog. -/
def keepsChallenge (req : SipFields) : Bool :=
  ["REGISTER", "INVITE", "SUBSCRIBE", "REFER"].any
      (fun method => req.sipMethod.any (osipStrcasecmp · method.toList)) ||
    (req.toHeader.bind fun header => GenericParam.getByname header.genParams "tag".toList).isSome

def answerChallenges (code : Int) : List WwwAuthenticate → HttpAuths → Authenticated
  | [], httpAuths => ⟨.ok (), httpAuths, []⟩
  | wa :: was, httpAuths =>
      match Credentials.find authinfos req username wa.realm with
      | .error failure => .fail failure httpAuths
      | .ok credentials =>
          match credentials.header hash wa "0a4f113b".toList 1 with
          | .error failure => .fail failure httpAuths
          | .ok aut =>
              if keepsChallenge req then
                match callIdNumber (some req) with
                | none => (Authenticated.fail .fault httpAuths).after code aut
                | some callId =>
                    (answerChallenges code was (httpAuths.storeNonce callId wa code).2).after code aut
              else (answerChallenges code was httpAuths).after code aut

/-- `_eXosip_add_authentication_information`. -/
def addAuthenticationInformation (httpAuths : HttpAuths) (lastResponse : Option SipFields) :
    Authenticated :=
  match (req.fromHeader.bind From.url).bind Uri.username with
  | none => .fail (.code osipBadparameter) httpAuths
  | some username =>
      match lastResponse with
      | none => answerStored hash authinfos req username httpAuths
      | some response =>
          if response.wwwAuthenticates = [] ∧ response.proxyAuthenticates = [] then
            .fail (.code osipSyntaxerror) httpAuths
          else
            let www := answerChallenges hash authinfos req username 401 response.wwwAuthenticates
              httpAuths
            match www.result with
            | .error _ => www
            | .ok () =>
                let proxy := answerChallenges hash authinfos req username 407
                  response.proxyAuthenticates www.httpAuths
                { proxy with added := www.added ++ proxy.added }

end Exosip
