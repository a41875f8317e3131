import Xnumon.Sink
import Xnumon.Descriptor
import Xnumon.Logevt
import Xnumon.Ancestors
import Xnumon.Document
import Xnumon.Schema
import Xnumon.Redaction
import Xnumon.Hiding
import Xnumon.Frame
import Xnumon.Nulls
import Xnumon.Parse
import Xnumon.Images
import Xnumon.Depth
import Xnumon.Stream
import Xnumon.Report
