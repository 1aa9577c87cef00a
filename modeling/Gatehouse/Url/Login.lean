import Gatehouse.Url.Basic
import Gatehouse.Url.Percent

/-!
# Names and passwords in URLs

A URL may have the name of a user in front of its host, and a password with it.  Whoever asks for
such a URL takes both out of it and sends them along with the request.  They are taken out if the
name is a text, and if there is a name or a password that is a text; a password that is none counts
as missing.

* `asked_eq` — the URL that is asked for is the same in all other parts.
-/

set_option autoImplicit false

namespace Gatehouse
namespace Url

/-- The bytes that a part of a URL stands for, if they are those of a text. -/
def textBytes? (part : String) : Option (List UInt8) :=
  let bytes := Percent.decode (Text.bytes part)
  if (Text.Utf8.decode? bytes).isSome then some bytes else none

/-- The name and the password that are taken out of a URL, if there are any. -/
def login? (url : Url) : Option (List UInt8 × Option (List UInt8)) := do
  let name ← textBytes? url.username
  let password := if url.password.isEmpty then none else textBytes? url.password
  if name.isEmpty && password.isNone then none else some (name, password)

/-- The URL that is asked for. -/
def asked (url : Url) : Url :=
  if url.login?.isSome then url.withoutCredentials else url

/-! ## Small facts -/

/-- The URL that is asked for differs in the name and the password alone. -/
theorem asked_eq (url : Url) :
    ∃ username password, url.asked = { url with username, password } := by
  rw [asked]
  split
  · exact ⟨"", "", rfl⟩
  · exact ⟨url.username, url.password, rfl⟩

@[simp] theorem asked_path (url : Url) : url.asked.path = url.path := by
  obtain ⟨username, password, h⟩ := url.asked_eq
  rw [h]

@[simp] theorem asked_query (url : Url) : url.asked.query = url.query := by
  obtain ⟨username, password, h⟩ := url.asked_eq
  rw [h]

/-- A URL without a name and a password is asked for as it is, and has nothing to send along. -/
theorem login?_eq_none {url : Url} (hname : url.username = "") (hpassword : url.password = "") :
    url.login? = none := by
  have hnothing : textBytes? "" = some [] := by decide +kernel
  rw [login?, hname, hpassword, hnothing]
  rfl

/-- Under another path the same is asked for, but for that path. -/
theorem asked_with_path (url : Url) (path : Path) :
    { url with path := path }.asked = { url.asked with path } := by
  have hlogin : { url with path := path }.login? = url.login? := rfl
  rw [asked, asked, hlogin]
  split <;> rfl

end Url
end Gatehouse
