/-!
# The vocabulary of envelopes

Requests and responses travel in SOAP 1.1 envelopes; what they carry belongs to the namespaces of
XML for Analysis.
-/

namespace CubeClient.Envelope

/-- The namespace of SOAP 1.1 envelopes. -/
def soapNamespace : String := "http://schemas.xmlsoap.org/soap/envelope/"

/-- The SOAP 1.1 encoding style. -/
def encodingStyle : String := "http://schemas.xmlsoap.org/soap/encoding/"

/-- The namespace of requests and of the elements that carry responses. -/
def methodNamespace : String := "urn:schemas-microsoft-com:xml-analysis"

/-- The namespace of tabular results. -/
def rowsetNamespace : String := "urn:schemas-microsoft-com:xml-analysis:rowset"

/-- The namespace of multidimensional results. -/
def datasetNamespace : String := "urn:schemas-microsoft-com:xml-analysis:mddataset"

end CubeClient.Envelope
