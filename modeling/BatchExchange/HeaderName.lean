import BatchExchange.Text

/-!
# Header names

The headers that the exchange itself reads or writes.
-/

namespace BatchExchange.HeaderName

def contentType : Text := "Content-Type".toList

def contentLength : Text := "Content-Length".toList

def contentTransferEncoding : Text := "Content-Transfer-Encoding".toList

def contentId : Text := "Content-ID".toList

/-- The spelling of Content-ID on the parts of an answer. -/
def contentIdOfPart : Text := "Content-Id".toList

def location : Text := "Location".toList

def entityId : Text := "OData-EntityId".toList

def prefer : Text := "Prefer".toList

def preferenceApplied : Text := "Preference-Applied".toList

def host : Text := "Host".toList

/-- Headers that a request of a batch must not have. -/
def forbidden : List Text :=
  ["Authorization", "Expect", "From", "Max-Forwards", "Range", "TE"].map String.toList

end BatchExchange.HeaderName
