import DiagramLinks.Text.Runs

namespace DiagramLinks.Text

/-- Characters with a decomposition: into a pair that composes again (`D`) or into characters that stay
apart (`E`). All others (`N`) stand for themselves. -/
def decompositionRuns : Runs := Runs.decode (String.join [
  "0N5cD1t.lc.1D1t.ld.1D1t.le.1D1t.lf.1D1t.lk.1D1t.lm.1N1D1v.mf.1D1x.lc.1D1x.ld.1D1x.le.1D1x.lk.1D2",
  "1.lc.1D21.ld.1D21.le.1D21.lk.1N1D26.lf.1D27.lc.1D27.ld.1D27.le.1D27.lf.1D27.lk.1N2D2d.lc.1D2d.ld",
  ".1D2d.le.1D2d.lk.1D2h.ld.1N2D2p.lc.1D2p.ld.1D2p.le.1D2p.lf.1D2p.lk.1D2p.lm.1N1D2r.mf.1D2t.lc.1D2",
  "t.ld.1D2t.le.1D2t.lk.1D2x.lc.1D2x.ld.1D2x.le.1D2x.lk.1N1D32.lf.1D33.lc.1D33.ld.1D33.le.1D33.lf.1",
  "D33.lk.1N2D39.lc.1D39.ld.1D39.le.1D39.lk.1D3d.ld.1N1D3d.lk.1D1t.lg.1D2p.lg.1D1t.li.1D2p.li.1D1t.",
  "mg.1D2p.mg.1D1v.ld.1D2r.ld.1D1v.le.1D2r.le.1D1v.lj.1D2r.lj.1D1v.lo.1D2r.lo.1D1w.lo.1D2s.lo.1N2D1",
  "x.lg.1D2t.lg.1D1x.li.1D2t.li.1D1x.lj.1D2t.lj.1D1x.mg.1D2t.mg.1D1x.lo.1D2t.lo.1D1z.le.1D2v.le.1D1",
  "z.li.1D2v.li.1D1z.lj.1D2v.lj.1D1z.mf.1D2v.mf.1D20.le.1D2w.le.1N2D21.lf.1D2x.lf.1D21.lg.1D2x.lg.1",
  "D21.li.1D2x.li.1D21.mg.1D2x.mg.1D21.lj.1N3D22.le.1D2y.le.1D23.mf.1D2z.mf.1N1D24.ld.1D30.ld.1D24.",
  "mf.1D30.mf.1D24.lo.1D30.lo.1N4D26.ld.1D32.ld.1D26.mf.1D32.mf.1D26.lo.1D32.lo.1N3D27.lg.1D33.lg.1",
  "D27.li.1D33.li.1D27.ln.1D33.ln.1N2D2a.ld.1D36.ld.1D2a.mf.1D36.mf.1D2a.lo.1D36.lo.1D2b.ld.1D37.ld",
  ".1D2b.le.1D37.le.1D2b.mf.1D37.mf.1D2b.lo.1D37.lo.1D2c.mf.1D38.mf.1D2c.lo.1D38.lo.1N2D2d.lf.1D39.",
  "lf.1D2d.lg.1D39.lg.1D2d.li.1D39.li.1D2d.lm.1D39.lm.1D2d.ln.1D39.ln.1D2d.mg.1D39.mg.1D2f.le.1D3b.",
  "le.1D2h.le.1D3d.le.1D2h.lk.1D2i.ld.1D3e.ld.1D2i.lj.1D3e.lj.1D2i.lo.1D3e.lo.1NxD27.m3.1D33.m3.1Nd",
  "D2d.m3.1D39.m3.1NsD1t.lo.1D2p.lo.1D21.lo.1D2x.lo.1D27.lo.1D33.lo.1D2d.lo.1D39.lo.1D64.lg.1D70.lg",
  ".1D64.ld.1D70.ld.1D64.lo.1D70.lo.1D64.lc.1D70.lc.1N1D5g.lg.1D6c.lg.1Dfa.lg.1Dfb.lg.1D5i.lg.1D6e.",
  "lg.1N2D1z.lo.1D2v.lo.1D23.lo.1D2z.lo.1D27.mg.1D33.mg.1Ddm.lg.1Ddn.lg.1Dc7.lo.1Dia.lo.1D2y.lo.1N3",
  "D1z.ld.1D2v.ld.1N2D26.lc.1D32.lc.1D5h.ld.1D6d.ld.1D5i.ld.1D6e.ld.1D60.ld.1D6w.ld.1D1t.lr.1D2p.lr",
  ".1D1t.lt.1D2p.lt.1D1x.lr.1D2t.lr.1D1x.lt.1D2t.lt.1D21.lr.1D2x.lr.1D21.lt.1D2x.lt.1D27.lr.1D33.lr",
  ".1D27.lt.1D33.lt.1D2a.lr.1D36.lr.1D2a.lt.1D36.lt.1D2d.lr.1D39.lr.1D2d.lt.1D39.lt.1D2b.me.1D37.me",
  ".1D2c.me.1D38.me.1N2D20.lo.1D2w.lo.1N6D1t.lj.1D2p.lj.1D1x.mf.1D2t.mf.1D5y.lg.1D6u.lg.1D5x.lg.1D6",
  "t.lg.1D27.lj.1D33.lj.1Dfi.lg.1Dfj.lg.1D2h.lg.1D3d.lg.1N7gElc.1Eld.1N1Elv.1Elk.ld.1N1bEjd.1N9E1n.",
  "1N6D4o.ld.1Dpd.ld.1E53.1Dph.ld.1Dpj.ld.1Dpl.ld.1N1Dpr.ld.1N1Dpx.ld.1Dq1.ld.1Dqy.ld.1NpDpl.lk.1Dp",
  "x.lk.1Dq9.ld.1Dqd.ld.1Dqf.ld.1Dqh.ld.1Dqz.ld.1NpDqh.lk.1Dqt.lk.1Dqn.ld.1Dqt.ld.1Dqx.ld.1N4Dr6.ld",
  ".1Dr6.lk.1N17Dt1.lc.1Dt1.lk.1N1Dsz.ld.1N3Dsm.lk.1N4Dt6.ld.1Dt4.lc.1Dtf.li.1NaDt4.li.1NvDu0.li.1N",
  "mDtx.lc.1Dtx.lk.1N1Dtv.ld.1N3Duu.lk.1N4Du2.ld.1Du0.lc.1Dub.li.1NnDvo.lr.1Dvp.lr.1N21Dt2.li.1Dty.",
  "li.1NdDsw.li.1Dts.li.1Dsw.lk.1Dts.lk.1N2Dt1.li.1Dtx.li.1N2Dyg.lk.1Dyh.lk.1Dt2.lk.1Dty.lk.1Dt3.lk",
  ".1Dtz.lk.1N2Dt4.lg.1Du0.lg.1Dt4.lk.1Du0.lk.1Dta.lk.1Du6.lk.1N2Dyw.lk.1Dyx.lk.1Dtp.lk.1Dul.lk.1Dt",
  "f.lg.1Dub.lg.1Dtf.lk.1Dub.lk.1Dtf.ln.1Dub.ln.1Dtj.lk.1Duf.lk.1N2Dtn.lk.1Duj.lk.1N88D17r.18z.1D17",
  "r.190.1D18o.190.1D17r.191.1D18q.190.1N49D1cl.190.1N1D1c1.190.1NgD1ci.190.1NglD1t4.1to.1N7D1tc.1t",
  "o.1N2D1tf.1to.1NzE1sl.1to.1E1sm.1to.1E1sn.1to.1E1ss.1to.1E1sx.1to.1E1sy.1to.1E1t7.1to.1E1tb.1to.",
  "1N2zD1xj.1xa.1D1xj.1xz.1NfE1wh.1x8.1E1wi.1x8.1N1E1wv.1x8.1N2bE20i.20s.1N2E20o.20s.1NyE1zq.20s.1E",
  "1zr.20s.1E1zw.20s.1N2E20b.20s.1N6hD287.28m.1N2D287.27y.1D287.28n.1NfE275.27w.1E276.27w.1N1iD2aa.",
  "2c7.1N1hD2bq.2bi.1D2br.2bi.1D2bq.2c7.1N3fD2fa.2fq.1N3bD2in.2j9.1N6D2iu.2j9.1D2iu.2ja.1N1D2iu.2iq",
  ".1D2iy.2j9.1N3iD2me.2m6.1D2mf.2m6.1D2me.2mv.1N3xD2qh.2q2.1N1D2qh.2q7.1D2qk.2q2.1D2qh.2qn.1N9wE30",
  "i.33r.1N9E30s.33r.1N4E30x.33r.1N4E312.33r.1N4E317.33r.1NcE30g.33p.1N9E31t.31u.1N1E31t.31w.1E33m.",
  "328.1N1E33n.328.1N8E31t.328.1NhE32q.33r.1N9E330.33r.1N4E335.33r.1N4E33a.33r.1N4E33f.33r.1NcE32o.",
  "33p.1N30D36t.372.1N25bD5c5.5dh.1N1D5c7.5dh.1N1D5c9.5dh.1N1D5cb.5dh.1N1D5cd.5dh.1N3D5ch.5dh.1N14D",
  "5dm.5dh.1N1D5do.5dh.1N2D5dq.5dh.1D5dr.5dh.1N1D5du.5dh.1NjgD1t.md.1D2p.md.1D1u.lj.1D2q.lj.1D1u.mb",
  ".1D2q.mb.1D1u.mp.1D2q.mp.1D5j.ld.1D6f.ld.1D1w.lj.1D2s.lj.1D1w.mb.1D2s.mb.1D1w.mp.1D2s.mp.1D1w.mf",
  ".1D2s.mf.1D1w.ml.1D2s.ml.1D7m.lc.1D7n.lc.1D7m.ld.1D7n.ld.1D1x.ml.1D2t.ml.1D1x.mo.1D2t.mo.1Dfc.li",
  ".1Dfd.li.1D1y.lj.1D2u.lj.1D1z.lg.1D2v.lg.1D20.lj.1D2w.lj.1D20.mb.1D2w.mb.1D20.lk.1D2w.lk.1D20.mf",
  ".1D2w.mf.1D20.mm.1D2w.mm.1D21.mo.1D2x.mo.1D5r.ld.1D6n.ld.1D23.ld.1D2z.ld.1D23.mb.1D2z.mb.1D23.mp",
  ".1D2z.mp.1D24.mb.1D30.mb.1D5yu.lg.1D5yv.lg.1D24.mp.1D30.mp.1D24.ml.1D30.ml.1D25.ld.1D31.ld.1D25.",
  "lj.1D31.lj.1D25.mb.1D31.mb.1D26.lj.1D32.lj.1D26.mb.1D32.mb.1D26.mp.1D32.mp.1D26.ml.1D32.ml.1D5x.",
  "ld.1D6t.ld.1D5x.lk.1D6t.lk.1D98.lc.1D99.lc.1D98.ld.1D99.ld.1D28.ld.1D34.ld.1D28.lj.1D34.lj.1D2a.",
  "lj.1D36.lj.1D2a.mb.1D36.mb.1D5zu.lg.1D5zv.lg.1D2a.mp.1D36.mp.1D2b.lj.1D37.lj.1D2b.mb.1D37.mb.1D9",
  "m.lj.1D9n.lj.1D9s.lj.1D9t.lj.1D602.lj.1D603.lj.1D2c.lj.1D38.lj.1D2c.mb.1D38.mb.1D2c.mp.1D38.mp.1",
  "D2c.ml.1D38.ml.1D2d.mc.1D39.mc.1D2d.mo.1D39.mo.1D2d.ml.1D39.ml.1Da0.ld.1Da1.ld.1Da2.lk.1Da3.lk.1",
  "D2e.lf.1D3a.lf.1D2e.mb.1D3a.mb.1D2f.lc.1D3b.lc.1D2f.ld.1D3b.ld.1D2f.lk.1D3b.lk.1D2f.lj.1D3b.lj.1",
  "D2f.mb.1D3b.mb.1D2g.lj.1D3c.lj.1D2g.lk.1D3c.lk.1D2h.lj.1D3d.lj.1D2i.le.1D3e.le.1D2i.mb.1D3e.mb.1",
  "D2i.mp.1D3e.mp.1D2w.mp.1D38.lk.1D3b.lm.1D3d.lm.1N1Dan.lj.1N4D1t.mb.1D2p.mb.1D1t.ll.1D2p.ll.1D5e.",
  "ld.1D6a.ld.1D5e.lc.1D6a.lc.1D5e.ll.1D6a.ll.1D5e.lf.1D6a.lf.1D61s.le.1D61t.le.1D76.ld.1D77.ld.1D7",
  "6.lc.1D77.lc.1D76.ll.1D77.ll.1D76.lf.1D77.lf.1D61s.li.1D61t.li.1D1x.mb.1D2t.mb.1D1x.ll.1D2t.ll.1",
  "D1x.lf.1D2t.lf.1D5m.ld.1D6i.ld.1D5m.lc.1D6i.lc.1D5m.ll.1D6i.ll.1D5m.lf.1D6i.lf.1D62g.le.1D62h.le",
  ".1D21.ll.1D2x.ll.1D21.mb.1D2x.mb.1D27.mb.1D33.mb.1D27.ll.1D33.ll.1D5w.ld.1D6s.ld.1D5w.lc.1D6s.lc",
  ".1D5w.ll.1D6s.ll.1D5w.lf.1D6s.lf.1D630.le.1D631.le.1Dbk.ld.1Dbl.ld.1Dbk.lc.1Dbl.lc.1Dbk.ll.1Dbl.",
  "ll.1Dbk.lf.1Dbl.lf.1Dbk.mb.1Dbl.mb.1D2d.mb.1D39.mb.1D2d.ll.1D39.ll.1Dbz.ld.1Dc0.ld.1Dbz.lc.1Dc0.",
  "lc.1Dbz.ll.1Dc0.ll.1Dbz.lf.1Dc0.lf.1Dbz.mb.1Dc0.mb.1D2h.lc.1D3d.lc.1D2h.mb.1D3d.mb.1D2h.ll.1D3d.",
  "ll.1D2h.lf.1D3d.lf.1N6Dq9.lv.1Dq9.lw.1D64g.lc.1D64h.lc.1D64g.ld.1D64h.ld.1D64g.n6.1D64h.n6.1Dpd.",
  "lv.1Dpd.lw.1D64o.lc.1D64p.lc.1D64o.ld.1D64p.ld.1D64o.n6.1D64p.n6.1Dqd.lv.1Dqd.lw.1D64w.lc.1D64x.",
  "lc.1D64w.ld.1D64x.ld.1N2Dph.lv.1Dph.lw.1D654.lc.1D655.lc.1D654.ld.1D655.ld.1N2Dqf.lv.1Dqf.lw.1D6",
  "5c.lc.1D65d.lc.1D65c.ld.1D65d.ld.1D65c.n6.1D65d.n6.1Dpj.lv.1Dpj.lw.1D65k.lc.1D65l.lc.1D65k.ld.1D",
  "65l.ld.1D65k.n6.1D65l.n6.1Dqh.lv.1Dqh.lw.1D65s.lc.1D65t.lc.1D65s.ld.1D65t.ld.1D65s.n6.1D65t.n6.1",
  "Dpl.lv.1Dpl.lw.1D660.lc.1D661.lc.1D660.ld.1D661.ld.1D660.n6.1D661.n6.1Dqn.lv.1Dqn.lw.1D668.lc.1D",
  "669.lc.1D668.ld.1D669.ld.1N2Dpr.lv.1Dpr.lw.1D66g.lc.1D66h.lc.1D66g.ld.1D66h.ld.1N2Dqt.lv.1Dqt.lw",
  ".1D66o.lc.1D66p.lc.1D66o.ld.1D66p.ld.1D66o.n6.1D66p.n6.1N1Dpx.lw.1N1D66x.lc.1N1D66x.ld.1N1D66x.n",
  "6.1Dqx.lv.1Dqx.lw.1D674.lc.1D675.lc.1D674.ld.1D675.ld.1D674.n6.1D675.n6.1Dq1.lv.1Dq1.lw.1D67c.lc",
  ".1D67d.lc.1D67c.ld.1D67d.ld.1D67c.n6.1D67d.n6.1Dq9.lc.1Eq9.ld.1Dqd.lc.1Eqd.ld.1Dqf.lc.1Eqf.ld.1D",
  "qh.lc.1Eqh.ld.1Dqn.lc.1Eqn.ld.1Dqt.lc.1Eqt.ld.1Dqx.lc.1Eqx.ld.1N2D64g.n9.1D64h.n9.1D64i.n9.1D64j",
  ".n9.1D64k.n9.1D64l.n9.1D64m.n9.1D64n.n9.1D64o.n9.1D64p.n9.1D64q.n9.1D64r.n9.1D64s.n9.1D64t.n9.1D",
  "64u.n9.1D64v.n9.1D65c.n9.1D65d.n9.1D65e.n9.1D65f.n9.1D65g.n9.1D65h.n9.1D65i.n9.1D65j.n9.1D65k.n9",
  ".1D65l.n9.1D65m.n9.1D65n.n9.1D65o.n9.1D65p.n9.1D65q.n9.1D65r.n9.1D674.n9.1D675.n9.1D676.n9.1D677",
  ".n9.1D678.n9.1D679.n9.1D67a.n9.1D67b.n9.1D67c.n9.1D67d.n9.1D67e.n9.1D67f.n9.1D67g.n9.1D67h.n9.1D",
  "67i.n9.1D67j.n9.1Dq9.li.1Dq9.lg.1D67k.n9.1Dq9.n9.1Dq4.n9.1N1Dq9.n6.1D69i.n9.1Dpd.li.1Dpd.lg.1Dpd",
  ".lc.1Epd.ld.1Dpd.n9.1N1Eqh.1N2D4o.n6.1D67o.n9.1Dqf.n9.1Dq6.n9.1N1Dqf.n6.1D69y.n9.1Dph.lc.1Eph.ld",
  ".1Dpj.lc.1Epj.ld.1Dpj.n9.1D69r.lc.1D69r.ld.1D69r.n6.1Dqh.li.1Dqh.lg.1Dqy.lc.1Eqh.lk.ld.1N2Dqh.n6",
  ".1Dqy.n6.1Dpl.li.1Dpl.lg.1Dpl.lc.1Epl.ld.1N1D6bi.lc.1D6bi.ld.1D6bi.n6.1Dqt.li.1Dqt.lg.1Dqz.lc.1E",
  "qt.lk.ld.1Dqp.lv.1Dqp.lw.1Dqt.n6.1Dqz.n6.1Dpx.li.1Dpx.lg.1Dpx.lc.1Epx.ld.1Dpt.lw.1D4o.lc.1E4o.ld",
  ".1E2o.1N2D67w.n9.1Dqx.n9.1Dr2.n9.1N1Dqx.n6.1D6ba.n9.1Dpr.lc.1Epr.ld.1Dq1.lc.1Eq1.ld.1Dq1.n9.1E50",
  ".1N2E6bm.1E6bn.1N84Eq1.1N3E23.1E1t.lm.1N32D6mo.mw.1D6mq.mw.1NiD6ms.mw.1NuD6og.mw.1D6ok.mw.1D6oi.",
  "mw.1N1gD6pv.mw.1N4D6q0.mw.1N2D6q3.mw.1NnD6qr.mw.1N1D6qt.mw.1NqD6rg.mw.1N2D6rn.mw.1N2D6rp.mw.1N1D",
  "6rs.mw.1NmD1p.mw.1N1D6sh.mw.1NaD6rx.mw.1D1o.mw.1D1q.mw.1D6sk.mw.1D6sl.mw.1N2D6sy.mw.1D6sz.mw.1N2",
  "D6t2.mw.1D6t3.mw.1N6D6t6.mw.1D6t7.mw.1N2D6te.mw.1D6tf.mw.1N2D6ti.mw.1D6tj.mw.1NyD6ua.mw.1D6ug.mw",
  ".1D6uh.mw.1D6uj.mw.1N1cD6t8.mw.1D6t9.mw.1D6tt.mw.1D6tu.mw.1N6D6uq.mw.1D6ur.mw.1D6us.mw.1D6ut.mw.",
  "1N1nE9hk.1E9hl.1N1ipE8gt.mw.1N12nD9jf.9ll.1N1D9jh.9ll.1N1D9jj.9ll.1N1D9jl.9ll.1N1D9jn.9ll.1N1D9j",
  "p.9ll.1N1D9jr.9ll.1N1D9jt.9ll.1N1D9jv.9ll.1N1D9jx.9ll.1N1D9jz.9ll.1N1D9k1.9ll.1N2D9k4.9ll.1N1D9k",
  "6.9ll.1N1D9k8.9ll.1N6D9kf.9ll.1D9kf.9lm.1N1D9ki.9ll.1D9ki.9lm.1N1D9kl.9ll.1D9kl.9lm.1N1D9ko.9ll.",
  "1D9ko.9lm.1N1D9kr.9ll.1D9kr.9lm.1NmD9ja.9ll.1N9D9lp.9ll.1NdD9m3.9ll.1N1D9m5.9ll.1N1D9m7.9ll.1N1D",
  "9m9.9ll.1N1D9mb.9ll.1N1D9md.9ll.1N1D9mf.9ll.1N1D9mh.9ll.1N1D9mj.9ll.1N1D9ml.9ll.1N1D9mn.9ll.1N1D",
  "9mp.9ll.1N2D9ms.9ll.1N1D9mu.9ll.1N1D9mw.9ll.1N6D9n3.9ll.1D9n3.9lm.1N1D9n6.9ll.1D9n6.9lm.1N1D9n9.",
  "9ll.1D9n9.9lm.1N1D9nc.9ll.1D9nc.9lm.1N1D9nf.9ll.1D9nf.9lm.1NmD9ly.9ll.1N2D9nz.9ll.1D9o0.9ll.1D9o",
  "1.9ll.1D9o2.9ll.1N3D9od.9ll.1N13i9Erpk.1Ekc4.1Es7e.1Ert4.1Elw1.1Efg2.1Egkl.1Evj0.1Evj0.1Ehn5.1Es",
  "sx.1Egw7.1Ehmw.1Ejcm.1Ene1.1Ep6t.1Eqin.1Eqt6.1Er20.1Esjz.1Ekxu.1Eljv.1Emah.1Emvy.1Eq4d.1Esq2.1Eu",
  "ep.1Efia.1Eghh.1El50.1Emjf.1Eqi5.1Ev8e.1Eifk.1Em3v.1Eqfh.1Er50.1Ejih.1Epnc.1Eqvz.1Eiq2.1Ekd3.1El",
  "m2.1Empo.1Eslq.1Efpi.1Eg53.1Egda.1Ejwk.1El3n.1Emj4.1Enhj.1Epa9.1Eqh2.1Eqjg.1Es1b.1Etv6.1Eupb.1Ev",
  "7e.1Ent8.1Enzz.1Eotc.1Eq15.1Et1g.1Evb3.1Erfa.1Ehjz.1Eiro.1Eokg.1Epdq.1Emle.1Enuy.1Ersy.1Ettj.1Eh",
  "js.1Ei8y.1Ekyb.1Elp6.1Elxr.1Eoq7.1Eoxj.1Etor.1Egcy.1Epe3.1Eg64.1Eg5o.1Eo4c.1Eou6.1Eq29.1Etpx.1Er",
  "k0.1Ejin.1Ekxu.1Erge.1Efg9.1Ei5j.1Eiz6.1Emtj.1En74.1Egev.1Enwb.1Efr3.1Eiw9.1Eff1.1Elho.1Ek1k.1Eo",
  "pu.1Egjn.1Ehge.1Eni9.1Eq4p.1Ere2.1Ela2.1Esds.1Elfs.1Ejjy.1Eput.1Ejog.1En6t.1Efji.1Eg2x.1Eg5l.1Ek",
  "n5.1Eoo7.1Eprj.1Erf6.1Essv.1Egdx.1Egn6.1Eho3.1Eir0.1Ek3p.1Em4e.1Enxm.1Etkd.1Eui2.1Evbr.1Evda.1Eg",
  "bf.1Ekau.1El87.1Esbm.1Eino.1Ej9s.1Ejcw.1Ejve.1Elyb.1Emdl.1En0p.1Eo22.1Eovo.1Epdb.1Es9y.1Eq9a.1Es",
  "gz.1Et3e.1Eg7r.1Egbn.1Egql.1Ema0.1Er0i.1Ere2.1Eiq1.1Eiyd.1Ejnf.1El9q.1Eoji.1Emt1.1Efl0.1Eh6h.1Ei",
  "5j.1Eiii.1Eizg.1Emuq.1Emzt.1Ep7e.1Epc6.1Esvo.1Etti.1Etvs.1Eu1k.1Efpn.1Eo1a.1Ess4.1Etrs.1Ej4x.1Ef",
  "ie.1Efyy.1Ei5q.1Ei7z.1Ek2h.1Ekxu.1Emha.1Ency.1Eq9o.1Esjg.1Evil.1Ek94.1Etny.1Egax.1Ekfv.1Ekj7.1El",
  "kx.1Eluk.1Emx5.1En6h.1Ensb.1Eopc.1Eu3i.1Eg31.1Eje6.1Etq0.1Efu3.1Eie1.1Elpm.1Esa2.1Eivf.1Ej7o.1Ek",
  "k7.1Emtj.1Etqe.1Eg89.1Eglr.1Ei91.1Ek5v.1Ekem.1Eko8.1Elid.1Emx2.1Enaa.1Ep6h.1Er0v.1Er1d.1Esss.1Et",
  "sy.1Egfz.1Elve.1Egm5.1Emhc.1En14.1Eqgq.1Etr7.1Euvr.1Evbz.1Ekgn.1Elor.1Epns.1Eo97.1Eobk.1Eolu.1Em",
  "o0.1Em8p.1Eriw.1Efk0.1Epx2.1Eg8q.1Eg7b.1Eip2.1Ejir.1Eonq.1Ei2t.1Eljy.1Ekac.1Esaj.1Eqx8.1Etot.1Er",
  "63.1Eiqb.1Eg1s.1Egxs.1N2Ehga.1N1Ek8k.1N2Eg66.1Emqy.1Engq.1Eny4.1Enz2.1Enz9.1Eo0f.1Etw6.1Eon2.1Ep",
  "8d.1N1Eqhe.1N1Erg8.1N2Eshk.1Esn1.1N3Eu7j.1Eu7w.1Eu94.1Ev5g.1Esm6.1Etrr.1Efqm.1Efzb.1Eg25.1Egcp.1",
  "Egdg.1Eggh.1Egwt.1Egzq.1Eh2g.1Ehfk.1Ehig.1Ei90.1Ei9a.1Ej2s.1Ej8o.1Ej9q.1Ejci.1Ek0f.1Ek4i.1Ek9d.1",
  "Ekn9.1Elmf.1Elqy.1Elya.1Emem.1Emjv.1Emxu.1Entd.1Eny6.1Enyh.1Enyg.1Enyo.1Enyu.1Enz1.1Eo0d.1Eo0e.1",
  "Eo5c.1Eo75.1Eog0.1Eovo.1Eow9.1Eoxt.1Ep6a.1Epad.1Epnx.1Eprt.1Eprt.1Eq53.1Er2o.1Er6e.1Ergh.1Eri1.1",
  "Ertf.1Eruw.1Esdy.1Eshk.1Etsz.1Eu0v.1Eu2j.1Ej1x.1E36cu.1Epp4.1N2Effq.1Eg51.1Eg2w.1Efpc.1Eg1x.1Eg3",
  "k.1Egcn.1Ege2.1Egwt.1Egut.1Egwp.1Egyq.1Ehga.1Ehir.1Ehms.1Ehn8.1Ehuq.1Ei08.1Eiqa.1Eiqh.1Eiuh.1Eiw",
  "d.1Ej4o.1Ej7y.1Ej60.1Ej9q.1Ej8g.1Ejci.1Ejec.1Ejpg.1Ejrw.1Ejte.1Ek0m.1Ek8k.1Ekd3.1Ekd7.1Ekeu.1El8",
  "9.1Ela2.1Elkx.1Elwb.1Elvv.1Elya.1Em5a.1Emem.1Enmv.1Emk5.1Emnj.1Emqy.1En01.1En46.1En5n.1Enbx.1Enb",
  "z.1Engq.1Enh7.1Enhw.1Enka.1Enk0.1Env0.1Eo8h.1Eog0.1Eol7.1Eorf.1Eovo.1Ep4u.1Epad.1Epxu.1Eq27.1Eqr",
  "d.1Er41.1Er5y.1Er6e.1Eren.1Erg8.1Erez.1Ergh.1Erge.1Erfx.1Eri1.1Erka.1Eruw.1Esag.1Esj6.1Esrd.1Esx",
  "i.1Etq4.1Etsz.1Etw6.1Etzv.1Eu0v.1Eu17.1Eu2j.1Eumq.1Evj0.1E313e.1E3138.1E33dh.1Ebrx.1Ecns.1Ecop.1",
  "E39e1.1E3bgw.1E3i6r.1Evgj.1Evim.1N1vE15l.14k.1N1E16a.14n.1NaE161.14x.1E161.14y.1E161.14s.14x.1E1",
  "61.14s.14y.1E15c.14n.1E15c.14o.1E15c.14s.1E15d.14s.1E15e.14s.1E15f.14s.1E15g.14s.1E15h.14s.1E15i",
  ".14s.1N1E15k.14s.1E15l.14s.1E15m.14s.1E15n.14s.1E15o.14s.1N1E15q.14s.1N1E15s.14s.1E15t.14s.1N1E1",
  "5v.14s.1E15w.14s.1N1E15y.14s.1E15z.14s.1E160.14s.1E161.14s.1E162.14s.1E15h.14p.1E15d.14v.1E15n.1",
  "4v.1E15w.14v.1N22iD1fpu.lj.1NqD1fq2.lj.1N245D1huh.1hve.1N1D1huj.1hve.1NeD1hut.1hve.1N3mD1hyp.1hy",
  "f.1D1hyq.1hyf.1NezD1idj.1ida.1D1idj.1idz.1N1iD1if6.1ih5.1N1D1if8.1igr.1N8D1iff.1igy.1N2D1ifk.1ih",
  "5.1N1fD1igy.1igy.1N1D1igy.1igo.1D1igy.1ih5.1N6qD1int.1inu.1D1int.1ink.1N1D1int.1inx.1N6zD1iuw.1i",
  "un.1D1iux.1iun.1NosD1jjp.1jjk.1Ne7cD1xr2.1xr2.1D1xr2.1xrd.1D1xr2.1xr3.1D1xrd.1xr3.1D1xr2.1xr4.1D",
  "1xr5.1xr3.1D1xr6.1xr3.1D1xr5.1xr4.1N2f3D206f.206f.1D206b.206f.1D206h.206f.1NjqrE2jx3.2jxh.1E2jx4",
  ".2jxh.1E2jx4.2jxh.2jxq.1E2jx4.2jxh.2jxr.1E2jx4.2jxh.2jxs.1E2jx4.2jxh.2jxt.1E2jx4.2jxh.2jxu.1N2eE",
  "2jzt.2jxh.1E2jzu.2jxh.1E2jzt.2jxh.2jxq.1E2jzu.2jxh.2jxq.1E2jzt.2jxh.2jxr.1E2jzu.2jxh.2jxr.1N1m4f",
  "Efgd.1Efg8.1Efgh.1E2tcy.1Efog.1Efqm.1Efqz.1Efsy.1Efwa.1Efx5.1Efzb.1Efyn.1Eae6.1E2ud6.1Eg25.1Eg2c",
  ".1Eg2s.1Eg3b.1E2u58.1Eaex.1Eg2v.1Eg3x.1E2u6j.1Eg47.1Eg4k.1Efkc.1Eg4s.1Eg51.1E3ly7.1Eg6t.1Eg77.1E",
  "afz.1Eg8r.1Eg92.1Egaa.1Egaf.1Eahh.1Egcn.1Egcp.1Egdg.1Ege2.1Eged.1Egee.1Egev.1Egg9.1Eggh.1Eggq.1E",
  "ghf.1Eghp.1Eghr.1Eghr.1Eghr.1E2v58.1Em7k.1Egju.1Egkf.1E2vdv.1Egkr.1Egkx.1Egli.1Egpq.1Egmw.1Egnc.",
  "1Ego8.1Egpu.1Egs6.1Egsw.1Egur.1Egv7.1Egw4.1Egw4.1Egwp.1Egx7.1Egxf.1Egxu.1Eh7a.1Egzq.1Eh7b.1Eh1t.",
  "1Eh2s.1Eg7b.1Ehke.1Ehce.1Ehdg.1Ehe5.1Ehaj.1Ehf6.1Ehf5.1Ehik.1E2x9g.1Ehki.1Ehkn.1Ehl2.1Ehlm.1Ehlu",
  ".1Ehnm.1E2xm0.1E2xnu.1Ehrg.1Ehsr.1Eht3.1Ehqw.1Ehuu.1Eaum.1Eav0.1Ehzc.1Ei0u.1Ei0u.1E2y88.1Ei4j.1E",
  "i54.1Ei5j.1Ei5v.1E2yhk.1Ei67.1Ei6e.1Eitv.1Ei76.1Eayp.1Ei8w.1Ei9a.1Eibk.1Eia5.1E2z1g.1Eif7.1E2z1i",
  ".1Eige.1Eigb.1Eigs.1Eijl.1Eijm.1Eb3j.1Eikd.1Eilk.1Eim5.1Eind.1Eb4y.1E2zr7.1Eb5o.1Eipc.1Eipf.1Eip",
  "i.1Eiq2.1E3pg2.1Eiri.1E3035.1E3035.1Epoh.1Eisi.1Eisi.1Eb7r.1E335k.1E3cgq.1Eiua.1Eiuj.1Eb8j.1Eivu",
  ".1Eix9.1Eixj.1Eiyh.1Ej29.1Ebay.1Eba4.1Ej2s.1E30t0.1Ej47.1Ej7s.1Ej7w.1Ej7y.1Ej7w.1Ej96.1Ej9q.1Eja",
  "q.1Ejac.1Ejan.1Ejby.1Ejci.1Ejcm.1Ejdc.1Ejdn.1Ejfh.1Ejht.1Ejis.1Ejm8.1E31n0.1Ejlp.1Ejjw.1Ejmw.1Ej",
  "nn.1Ejqc.1E31td.1Ejs2.1Ejph.1Ejop.1Ebhq.1Eju1.1Ejum.1Ejvh.1Ejuf.1Ebjg.1Ek0f.1Ek18.1E32mi.1Ek4j.1",
  "Ekc8.1Ek7d.1Ebo9.1Ek9d.1Ebns.1Ebms.1Eg42.1Eg45.1Ekcg.1Ek9o.1Epf1.1Edeh.1Ekd3.1Ekd7.1Ekdd.1Ekf2.1",
  "Eker.1E33cz.1Ebpl.1Ekje.1Ekg5.1Eklu.1Ekn9.1E33hp.1Ekni.1Ekkf.1Ekr8.1Ebrx.1Eksi.1Ekv7.1Ekx6.1El2g",
  ".1E33xf.1El3v.1Ebvc.1El5t.1E34br.1El78.1Ebwu.1El82.1El9b.1Ela2.1Ela3.1E34p9.1E2yvf.1E34sa.1Ele6.",
  "1E354s.1Elhb.1Elhp.1Elev.1Eljq.1Elku.1Elmf.1Elkx.1Elm1.1Elmg.1Elmt.1E357i.1Elkk.1Elrj.1Elta.1Ec3",
  "7.1Elvv.1Elvr.1E35jl.1Elq1.1Em0e.1E35ni.1E35ou.1Em2u.1Em61.1Em5a.1Em57.1Ec5y.1Em6i.1Em7x.1Em7r.1",
  "Em99.1E2u5h.1Emdh.1E368z.1Emfw.1E36i3.1Emjs.1Emk5.1Emkw.1E36yw.1Emm8.1Emmt.1E3779.1E37dg.1Emt6.1",
  "Emtn.1Ecdo.1Emud.1Ece0.1Ece0.1Emyv.1Emzg.1En01.1En0l.1En2i.1Ecgr.1En50.1E386u.1En5q.1E389e.1En74",
  ".1E2zrz.1Enbk.1E38v5.1E38vs.1E38zo.1Ecn0.1Ecnc.1Enhw.1E394j.1E394i.1E395l.1E396b.1Enj2.1Enj3.1En",
  "j3.1Enka.1Ecop.1Enm3.1Ecp2.1Ecra.1E39r1.1Enri.1Ent8.1Env0.1Ectf.1E3a5i.1Enyu.1E3a8q.1E3a9x.1Eo0f",
  ".1Eo2z.1Ecvj.1Eo5c.1Eo5m.1Eo5r.1E3at8.1E3b1j.1E3b1j.1Eoa6.1Ed1e.1E3b8r.1Eog6.1Eog9.1Ed2f.1E3beo.",
  "1Eonm.1Ed5s.1Eoo8.1Eoo3.1Eoow.1E3c06.1Eorn.1Ed8h.1Eouf.1Eow2.1Eoxx.1Ed9w.1E3ciw.1E3cjr.1Edax.1E3",
  "cnt.1Ep6i.1E3cqm.1Ep79.1Epa2.1Epad.1E3d22.1E3d43.1Epcw.1E3d7s.1Epdc.1E33a7.1Eded.1Epf6.1Ephf.1Ed",
  "fv.1Epj2.1Ehx1.1E3dlz.1E3dmd.1E33bn.1E33bw.1Epoh.1Epok.1Esda.1Edij.1Epsh.1Epsb.1Epst.1Egc3.1Eptd",
  ".1Eptf.1Eptp.1Epuu.1E3ebg.1Eput.1Epwd.1Epyb.1Eq0d.1Epwj.1Eq0t.1Eq1z.1Eq53.1Epxv.1Eq16.1Eq18.1Eq1",
  "o.1E3eie.1E3eqz.1E3emt.1Ednv.1Eq9d.1Eq9f.1Eqae.1E3g0a.1Eqck.1E3f3g.1Edp9.1Edpd.1E3f75.1E3ff6.1Ed",
  "pn.1Eqj4.1Eqjg.1Eqjr.1Eqjt.1Eqll.1Eqko.1Eqoe.1Eqn6.1Eqrd.1Eqp4.1Eqqz.1Eqrq.1Edsn.1Equ9.1Eqv5.1Ed",
  "tl.1Eqxs.1Eqxv.1E3giv.1Er13.1Er1a.1Edv9.1Er22.1Eaez.1E3gz2.1E3h46.1Edz2.1Edzb.1Erds.1Erfx.1Erka.",
  "1Erpx.1E3hrc.1Ersb.1Ersx.1Ervf.1Erxz.1E3i9b.1E2upw.1Es0b.1Erzw.1Es1c.1E2uvy.1Es7o.1Esag.1E3jki.1",
  "E3jl9.1Esk4.1Esmp.1Esnl.1E3ju6.1Esnv.1Esvs.1Et07.1Et08.1Esxo.1Et89.1Et91.1E3ksa.1Etjf.1Eej9.1Etk",
  "n.1E3l2v.1Eeli.1Ets3.1Eiia.1Etur.1E3ltx.1E3lzu.1Eepa.1Eepi.1Eu00.1E3mdm.1Eer6.1E3mhi.1Eu17.1Eu17",
  ".1Eu21.1E3mpi.1Eu76.1Eeur.1Eu95.1Eucn.1Eude.1Euf2.1Eez2.1E3nsg.1Eumq.1Euv4.1Ev0d.1Ef66.1Ef71.1Ev",
  "3b.1E3owe.1Ef7c.1E3oxx.1E3p5a.1E3p8x.1Evcr.1Ef9y.1Eveh.1Evem.1Evet.1Evf3.1Evfa.1Evgb.1E3pxc.1N"])

/-- The number of a syllable: 28 endings for each of 21 vowels for each of 19 beginnings. -/
def syllable? (c : Char) : Option Nat :=
  if 0xac00 ≤ c.toNat ∧ c.toNat < 0xac00 + 19 * 21 * 28 then some (c.toNat - 0xac00) else none

/-- Beginning, vowel and ending; the first ending is none. -/
def syllableLetters (s : Nat) : List Char :=
  let ending := s % 28
  [Char.ofNat (0x1100 + s / 588), Char.ofNat (0x1161 + s % 588 / 28)]
    ++ if ending = 0 then [] else [Char.ofNat (0x11a7 + ending)]

/-- A beginning takes a vowel, and a syllable without an ending takes one. -/
def composeSyllable? (a b : Char) : Option Char :=
  if 0x1100 ≤ a.toNat ∧ a.toNat < 0x1100 + 19 ∧ 0x1161 ≤ b.toNat ∧ b.toNat < 0x1161 + 21 then
    some (Char.ofNat (0xac00 + ((a.toNat - 0x1100) * 21 + (b.toNat - 0x1161)) * 28))
  else
    match syllable? a with
    | some s =>
      if s % 28 = 0 ∧ 0x11a7 < b.toNat ∧ b.toNat < 0x11a7 + 28 then
        some (Char.ofNat (a.toNat + (b.toNat - 0x11a7)))
      else none
    | none => none

/-- Follows first parts `depth` times. -/
def decomposeWithin : Nat → Char → List Char
  | 0, c => [c]
  | depth + 1, c =>
    match syllable? c with
    | some s => syllableLetters s
    | none =>
      match decompositionRuns.find c with
      | ⟨_, 'D', [a, b]⟩ => decomposeWithin depth (Char.ofNat a) ++ [Char.ofNat b]
      | ⟨_, 'E', parts⟩ => parts.map Char.ofNat
      | _ => [c]

/-- The full decomposition; no first part is nested deeper than three times. -/
def decompose (c : Char) : List Char :=
  decomposeWithin 3 c

/-- The character that a pair composes to. -/
def compose? (a b : Char) : Option Char :=
  match composeSyllable? a b with
  | some c => some c
  | none =>
    (decompositionRuns.findRun? fun run => run.kind == 'D' && run.numbers == [a.toNat, b.toNat]).map
      fun run => Char.ofNat run.start

end DiagramLinks.Text
