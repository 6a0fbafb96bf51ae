import DiagramLinks.Text.Composed
import DiagramLinks.Text.Runs

namespace DiagramLinks.Url.Domain

/-- Runs of characters that stay (`V`), vanish (`I`), are refused (`X`), become the characters of the
run (`M`), become those as many places on as they are into the run themselves (`S`), or are in turns
replaced by their successor and kept (`A`). -/
def mappingRuns : Text.Runs := Text.Runs.decode (String.join [
  "0V1tS2p.qV11XwMw.1V7Mw.lk.1V1M2p.1V2I1V1Mw.lg.1V2S1e.2Mw.ld.1Mqk.1V2Mw.mf.1M1d.1M33.1V1M1d.6dg.1",
  "g.1M1d.6dg.1e.1M1f.6dg.1g.1V1S68.nV1S6w.7VxA1cM2x.lj.1V1M2x.2y.2A4V1A6M30.53.2A8Mjg.32.1A1aM73.1",
  "A6M37.1V1Mgj.1A4Mgk.1Maw.1V1Sgm.2Mb0.1V2Md9.1Mgp.1Mgr.1Mb6.1V1Mgw.1Mgz.1V1Mh5.1Mh4.1Mbd.1V3Mhb.1",
  "Mhe.1V1Mhh.1A6Mhs.1Mbs.1V1Mhv.1V2Mbx.1V1Mi0.1Mc0.1V1Si2.2A4Mia.1Mc9.1V3Mcd.1V7M2s.am.3M30.2y.3M3",
  "2.2y.3AgV1AiV1M2s.3e.3Mdx.1V1Mb9.1Mcf.1A14Mbi.1V1AiV6M8rp.1Mfw.1V1Mbe.1M8rq.1V2Mg2.1V1Mao.1Mi1.1",
  "Mi4.1AaV2oM2w.1Mh2.1M2y.1M36.1Mhl.1Mhn.1Mht.1M3b.1M3d.1VvMw.li.1Mw.lj.1Mw.lm.1Mw.mg.1Mw.lf.1Mw.l",
  "n.1V2Mgz.1M30.1M37.1M3c.1Mid.1V2jSlc.2V1Mlv.1Mlk.ld.1Mqh.1V9I1VwA4Mjd.1V1Mon.1V1X2Mw.qh.1V3M1n.1",
  "Ms3.1X4Mw.ld.1Mw.lk.ld.1Mq4.1M53.1Sq5.3X1Mr0.1X1Sr1.2V1Sq9.hX1Sqr.9VzMrb.1Mqa.1Mqg.1Mqt.1Mr1.1Mq",
  "z.1Mqu.1Mqo.1V1AoMqi.1Mqp.1Mqr.1V1Mqg.1Mqd.1V1Ms8.1V1Mqr.1Msb.1V2Sor.3Suo.gSts.wV1cAyV8A1iMy7.1A",
  "eV1A2oX1S129.12X2V1aM12d.136.1V3X2V3X1V1jX8VrX4V6XhVmX1V2gM17r.19w.1M18o.19w.1M1c7.19w.1M18q.19w",
  ".1V2sX1V1cX2V1nX2V2tXeV1nX2V1dX2VfX1VsX2V1X1VbX5VwX7V23X1V39M1sl.1to.1M1sm.1to.1M1sn.1to.1M1ss.1",
  "to.1M1sx.1to.1M1sy.1to.1M1t7.1to.1M1tb.1to.1V10X1V8X2V2X2VmX1V7X1V1X3V4X2V9X2V2X2V4X8V1X4M1wh.1x",
  "8.1M1wi.1x8.1X1M1wv.1x8.1V4X2VpX2V3X1V6X4V2X2VmX1V7X1V1M20i.20s.1X1V1M20o.20s.1X1V2X2V1X1V5X4V2X",
  "2V3X3V1X7M1zq.20s.1M1zr.20s.1M1zw.20s.1V1X1M20b.20s.1X7VhXaV3X1V9X1V3X1VmX1V7X1V2X1V5X2VaX1V3X1V",
  "3X2V1XfV4X2VcX7V7X1V3X1V8X2V2X2VmX1V7X1V2X1V5X2V9X2V2X2V3X7V3X4M275.27w.1M276.27w.1X1V5X2ViXaV2X",
  "1V6X3V3X1V4X3V2X1V1X1V2X3V2X3V3X3VcX4V5X3V3X1V4X2V1X6V1XeVlX5VdX1V3X1VnX1VgX2V9X1V3X1V4X7V2X1V3X",
  "1V2X2V4X2VaX7VmX1V3X1VnX1VaX1V5X2V9X1V3X1V4X7V2X5V3X1V4X2VaX1V3XcVdX1V3X1V1fX1V3X1V6X4VgX2VqX1V3",
  "X1ViX3VoX1V9X1V1X2V7X3V1X4V6X1V1X1V8X6VaX2V3XcV1eM2tp.2sy.1V7X4VtX11V2X1V1X1V5X1VoX1V1X1VcM2x9.2",
  "wi.1VaX2V5X1V1X1V7X1VaX2M2wb.2vt.1M2wb.2w1.1V2XwVcM2yz.1V1iM30i.33r.1V4X1V4M30s.33r.1V4M30x.33r.",
  "1V4M312.33r.1V4M317.33r.1VcM30g.33p.1V3X4V2M31t.31u.1V1M31t.31w.1M33m.328.1M33m.31t.328.1M33n.32",
  "8.1M33n.31t.328.1V7M31t.328.1VhM32q.33r.1V4X1V4M330.33r.1V4M335.33r.1V4M33a.33r.1V4M33f.33r.1VcM",
  "32o.33p.1V3X1VfX1VdX11V4gS8w0.12X1M8x3.1X5M8x9.1X2V18M3bw.1V2qI2V6gX1V4X2V7X1V1X1V4X2V15X1V4X2Vx",
  "X1V4X2V7X1V1X1V4X2VfX1V1lX1V4X2V1vX2VwX3VqX6V2eX2S3xs.6X2VhsX1VsX3V2hX7VmX9VoX9VkXcVdX1V3X1V2XcV",
  "1gI2V14X2VaX6VaX6VbI5VaX6V2hX7V17X5V1yXaVvX1VcX4VcX4V1X3V16X2V5XbV18X4VqX6VbX3V1qX2V1tX1VtX2VbX6",
  "VaX6VeX2V1aX2VcXkV25X1V4mX8V1oX3VfX3V1fMtu.1Mtw.1Mu6.1Su9.2Mua.1Mui.1Mv7.1Mwuj.1M5my.1V1X5S3bk.1",
  "7X2S3ct.3V8X8V17X5V18M2p.1M6e.1M2q.1V1S2s.2Md9.1S2v.8V1M33.1Mf7.1M34.1M36.1S38.2M3b.1M2p.1Sgg.2M",
  "5qa.1M2q.1S2s.2Mgp.1Sgr.2M2v.1V1M2z.1M31.1M97.1M33.1Mgk.1S5qu.2M34.1S38.2M5r1.1Mhb.1M3a.1M5r9.1S",
  "qa.3Squ.2M2x.1M36.1S39.2Sqa.2Mqp.1Squ.2VdMu5.1VyMgi.1M2r.1Mgl.1M6o.1Mgs.1M2u.1Mgv.1Mgx.1Mh1.1Sh4",
  ".3M5tn.1Mil.1Mh9.1M5tx.1Min.1Mhd.1Mhc.1She.4Mhk.1Shu.2Mbv.1Si1.2M5r0.1Si3.2M3e.1Si8.3Mqg.1V1sA46",
  "V4M2p.ji.1M601.1V2M67.1V1A2oV8S64g.8V6X2S64w.6X2V8S65c.8V8S65s.8V6X2S668.6X2V8X1M66p.1X1M66r.1X1",
  "M66t.1X1M66v.1V8S674.8V1Mq4.1V1Mq5.1V1Mq6.1V1Mq7.1V1Mr0.1V1Mr1.1V1Mr2.1X2M64g.qh.1M64h.qh.1M64i.",
  "qh.1M64j.qh.1M64k.qh.1M64l.qh.1M64m.qh.1M64n.qh.1M64g.qh.1M64h.qh.1M64i.qh.1M64j.qh.1M64k.qh.1M6",
  "4l.qh.1M64m.qh.1M64n.qh.1M65c.qh.1M65d.qh.1M65e.qh.1M65f.qh.1M65g.qh.1M65h.qh.1M65i.qh.1M65j.qh.",
  "1M65c.qh.1M65d.qh.1M65e.qh.1M65f.qh.1M65g.qh.1M65h.qh.1M65i.qh.1M65j.qh.1M674.qh.1M675.qh.1M676.",
  "qh.1M677.qh.1M678.qh.1M679.qh.1M67a.qh.1M67b.qh.1M674.qh.1M675.qh.1M676.qh.1M677.qh.1M678.qh.1M6",
  "79.qh.1M67a.qh.1M67b.qh.1V2M67k.qh.1Mq9.qh.1Mq4.qh.1X1V1M69i.qh.1S69c.2M67k.1Mq4.1Mq9.qh.1Mw.lv.",
  "1Mqh.1Mw.lv.1Mw.n6.1Mw.lk.n6.1M67o.qh.1Mqf.qh.1Mq6.qh.1X1V1M69y.qh.1M67m.1Mq5.1M67o.1Mq6.1Mqf.qh",
  ".1Mw.lv.lc.1Mw.lv.ld.1Mw.lv.n6.1V3Mpc.1X2V2S6a8.2M67q.1Mq7.1X1Mw.lw.lc.1Mw.lw.ld.1Mw.lw.n6.1V3Mq",
  "8.1V4S6ao.2M67u.1Mr1.1M6at.1Mw.lk.lc.1Mw.lk.ld.1M2o.1X2M67w.qh.1Mqx.qh.1Mr2.qh.1X1V1M6ba.qh.1M67",
  "s.1Mr0.1M67w.1Mr2.1Mqx.qh.1Mw.ld.1Mw.lw.1X1Mw.bI1V2X2V1M6c0.1V5Mw.mr.1VcX3V1X7Mw.1V3M6cy.6cy.1M6",
  "cy.6cy.6cy.1V1M6d1.6d1.1M6d1.6d1.6d1.1V4Mx.x.1V1Mw.lh.1V8M1r.1r.1M1r.x.1Mx.1r.1VdM6cy.6cy.6cy.6c",
  "y.1V7Mw.1I5X5I6M1c.1M2x.1X2S1g.6M17.1M6qa.1M1p.1S14.2M32.1S1c.aM17.1M6qa.1M1p.1S14.2X1M2p.1M2t.1",
  "M33.1M3c.1Mgp.1M2w.1S2z.4M34.1S37.2X3V8M36.37.1VpXeVxXfM2p.1b.2r.1M2p.1b.37.1M2r.1M4w.2r.1V1M2r.",
  "1b.33.1M2r.1b.39.1Mgr.1V1M4w.2u.1S2v.2M2w.3M87.1M2x.2M30.2V1M32.1M32.33.1V2S34.3M36.2V2M37.31.1M",
  "38.2t.30.1M38.31.1V1M3e.1V1Mqx.1V1M3e.1V1M2z.1M6d.1S2q.2V1M2t.2M2u.1M6ku.1M31.1M33.1S15c.4M2x.1V",
  "1M2u.2p.3c.1Mqo.1Mqb.2Mqo.1M6q9.1V4M2s.2M2t.1S2x.2V6M1d.6dg.1j.1M1d.6dg.1l.1M1d.6dg.1d.1c.1M1d.6",
  "dg.1f.1M1e.6dg.1f.1M1d.6dg.1h.1M1e.6dg.1h.1M1f.6dg.1h.1M1g.6dg.1h.1M1d.6dg.1i.1M1h.6dg.1i.1M1d.6",
  "dg.1k.1M1f.6dg.1k.1M1h.6dg.1k.1M1j.6dg.1k.1M1d.6dg.1M2x.1M2x.2x.1M2x.2x.2x.1M2x.3a.1M3a.1M3a.2x.",
  "1M3a.2x.2x.1M3a.2x.2x.2x.1M2x.3c.1M3c.1M3c.2x.1M3c.2x.2x.1M30.1S2r.2M31.1M2x.1M2x.2x.1M2x.2x.2x.",
  "1M2x.3a.1M3a.1M3a.2x.1M3a.2x.2x.1M3a.2x.2x.2x.1M2x.3c.1M3c.1M3c.2x.1M3c.2x.2x.1M30.1S2r.2M31.1V3",
  "M6mc.1V5M1c.6dg.1f.1V2X4V4cM6qz.6qz.1M6qz.6qz.6qz.1V1M6r2.6r2.1M6r2.6r2.6r2.1V6wS9hk.2V73XmVbXlS",
  "1d.9M1d.1c.1M1d.1d.1M1d.1e.1M1d.1f.1M1d.1g.1M1d.1h.1M1d.1i.1M1d.1j.1M1d.1k.1M1d.1l.1M1e.1c.1M14.",
  "1d.15.1M14.1e.15.1M14.1f.15.1M14.1g.15.1M14.1h.15.1M14.1i.15.1M14.1j.15.1M14.1k.15.1M14.1l.15.1M",
  "14.1d.1c.15.1M14.1d.1d.15.1M14.1d.1e.15.1M14.1d.1f.15.1M14.1d.1g.15.1M14.1d.1h.15.1M14.1d.1i.15.",
  "1M14.1d.1j.15.1M14.1d.1k.15.1M14.1d.1l.15.1M14.1e.1c.15.1XkM14.2p.15.1M14.2q.15.1M14.2r.15.1M14.",
  "2s.15.1M14.2t.15.1M14.2u.15.1M14.2v.15.1M14.2w.15.1M14.2x.15.1M14.2y.15.1M14.2z.15.1M14.30.15.1M",
  "14.31.15.1M14.32.15.1M14.33.15.1M14.34.15.1M14.35.15.1M14.36.15.1M14.37.15.1M14.38.15.1M14.39.15",
  ".1M14.3a.15.1M14.3b.15.1M14.3c.15.1M14.3d.15.1M14.3e.15.1S2p.qS2p.qM1c.1V10hM6qz.6qz.6qz.6qz.1V2",
  "vM1m.1m.1p.1M1p.1p.1M1p.1p.1p.1V2tM8gt.mw.1V47X2V3uS8q8.1cV1cM8rl.1V1Mh7.1M5tp.1Mhp.1V2A6Mgh.1Mh",
  "d.1Mgg.1Mgi.1V1M8s3.1V2M8s6.1V6M2y.1M3a.1Sfz.2A2sV7A4V3M8vn.1V1X5V19X1V1X5V1X2V1kX7M8yp.1V1XeVoX",
  "9V7X1V7X1V7X1V7X1V7X1V7X1V7X1V7X1V3iXyVqX1V4Mlal.1V2bMvj3.1XcMfeo.1Mffs.1Mfg6.1Mfgf.1Mfh5.1Mfid.",
  "1Mfik.1Mfj4.1Mfju.1Mg1r.1Mg2t.1Mg2z.1Mg3m.1Mg46.1Mg4r.1Mg68.1Mg6t.1Mg74.1Mgbf.1Mge1.1Mget.1Mgey.",
  "1Mgfs.1Mgg1.1Mggs.1Mgh5.1Mghu.1Mgja.1Mgjs.1Mgkj.1Mh5j.1Mh7j.1Mhkb.1Mhky.1Mhl6.1Mhlh.1Mhlz.1Mho3.",
  "1Mi1c.1Mi2o.1Mi60.1Mi6n.1Mi76.1Mi7s.1Mi9a.1Mi9d.1Mijf.1Mijp.1Mik1.1Mike.1Minm.1Minu.1Minz.1Mir8.",
  "1Miri.1Mirv.1Mis3.1Mits.1Miu9.1Miur.1Miwz.1Mjd4.1Mjee.1Mjez.1Mjzj.1Mjzo.1Mk1z.1Mk2f.1Mk2s.1Mk3d.",
  "1Mk4g.1Mk4l.1Mkc0.1Mkco.1Mkdk.1Ml5s.1Ml7m.1Ml89.1Ml9v.1Mlaj.1Mlas.1Mlaz.1Mlcf.1Mlck.1Mldg.1Mm7f.",
  "1Mmju.1Mmk6.1Mmkb.1Mmkf.1Mmkn.1Mml5.1Mml7.1Mmng.1Mmtg.1Mmtl.1Mn30.1Mn3a.1Mn4o.1Mn4v.1Mn54.1Mn5c.",
  "1Mn7v.1Mn82.1Mnee.1Mnel.1Mnfy.1Mngf.1Mnhq.1Mnob.1Mnoi.1Mnoz.1Mny2.1Mo1k.1Mo1q.1Mo6s.1Mo97.1Moah.",
  "1Mokz.1Mooo.1Mp4m.1Mp5d.1Mp6y.1Mp8d.1Mpa9.1Mpak.1Mpaq.1Mpbn.1Mpdr.1Mpe1.1Mpnn.1Mpnu.1Mpo3.1Mpoc.",
  "1Mpos.1Mpp7.1Mppb.1Mpri.1Mprm.1Mprs.1Mqj1.1Mqjv.1Mqww.1Mqx8.1Mqxv.1Mr5q.1Mr63.1Mr82.1Mr9c.1Mrp3.",
  "1Mrpi.1Mrpx.1Mrqw.1Mrrx.1Mrxg.1Mrxs.1Mrzn.1Ms6j.1Ms7e.1Msd7.1Msds.1Msdx.1Msk1.1Msp5.1Mssm.1Msss.",
  "1Mssx.1Mtiv.1Mtj4.1Mtng.1Mtrq.1Mtrt.1Mtt4.1Mtw1.1Mtwe.1Mtwi.1Mtwp.1Mtzf.1Mu0d.1Mu0j.1Mu0x.1Mu5k.",
  "1Mu6z.1Mu73.1Muc6.1Muc9.1Mucs.1Mujs.1Mul4.1Mulb.1Mun9.1Munj.1Munm.1Munw.1Muoq.1Muzp.1Mvat.1Mvb3.",
  "1Mvc5.1Mvcr.1Mvcz.1Mvd9.1Mvdd.1Mveh.1Mvel.1Mvf2.1Mvf7.1Mvfk.1Mvgb.1Mvgq.1Mvgy.1Mvil.1Mvj0.1Mvj4.",
  "1X16Mw.1V1M1a.1V1fM9hu.1V1Mgg1.1Sgg4.2V5X1V2eX2V2Mw.9ll.1Mw.9lm.1V2M9l4.9l6.1V2nM9mb.9mw.1X5V17X",
  "1S3cw.2M3hm.1M3cy.1S3ho.2S3cz.3S3hs.6M3dm.1S3d2.3M3dt.1S3d5.aS3fl.lI1S3dg.2S3if.2M3ik.1M3im.1M3i",
  "r.1M3iv.1M3ix.1M3do.1M3j1.1M3j3.1S3dp.2M3ds.1S3du.2M3dz.1M3e1.1S3e3.5M3ea.1M3ee.1M3eo.1M3ev.1M3f",
  "0.1S3jl.2S3fb.3S3gk.2M3go.1S3gx.2M3h0.1M3ha.1M3hd.1X1V2Mfeo.1Mfik.1Mfex.1Mh5n.1Mfey.1Mffx.1Mfez.",
  "1Mn5e.1Mfh5.1Mffd.1Mfep.1Mhm1.1Mh80.1Mfju.1V1yXaVgM14.3cw.15.1M14.3cy.15.1M14.3cz.15.1M14.3d1.15",
  ".1M14.3d2.15.1M14.3d3.15.1M14.3d5.15.1M14.3d7.15.1M14.3d8.15.1M14.3da.15.1M14.3db.15.1M14.3dc.15",
  ".1M14.3dd.15.1M14.3de.15.1M14.xz4.15.1M14.yvs.15.1M14.zc4.15.1M14.108s.15.1M14.10p4.15.1M14.115g",
  ".15.1M14.1224.15.1M14.12ys.15.1M14.13f4.15.1M14.14bs.15.1M14.14s4.15.1M14.158g.15.1M14.15os.15.1",
  "M14.1654.15.1M14.13p8.15.1M14.1350.13ic.15.1M14.1350.16f8.15.1X1M14.feo.15.1M14.fik.15.1M14.fex.",
  "15.1M14.h5n.15.1M14.fis.15.1M14.g31.15.1M14.fer.15.1M14.g2z.15.1M14.fh9.15.1M14.gg1.15.1M14.kco.",
  "15.1M14.m7f.15.1M14.ldg.15.1M14.kdk.15.1M14.ssx.15.1M14.h7j.15.1M14.k4l.15.1M14.kkq.15.1M14.kcp.",
  "15.1M14.ny6.15.1M14.glp.15.1M14.mm1.15.1M14.rs1.15.1M14.nz1.15.1M14.gc4.15.1M14.fkz.15.1M14.gos.",
  "15.1M14.i1y.15.1M14.nhf.15.1M14.flt.15.1M14.rt3.15.1M14.ggk.15.1M14.nzh.15.1M14.fm9.15.1M14.pnu.",
  "15.1M14.po3.15.1Mgun.1Minw.1Mk1z.1Moen.1V8M34.38.2t.1M1e.1d.1M1e.1e.1M1e.1f.1M1e.1g.1M1e.1h.1M1e",
  ".1i.1M1e.1j.1M1e.1k.1M1e.1l.1M1f.1c.1M1f.1d.1M1f.1e.1M1f.1f.1M1f.1g.1M1f.1h.1M3cw.1S3cy.2S3d1.3M",
  "3d5.1S3d7.2S3da.5Mxz4.1Myvs.1Mzc4.1M108s.1M10p4.1M115g.1M1224.1M12ys.1M13f4.1M14bs.1M14s4.1M158g",
  ".1M15os.1M1654.1M14c8.y5c.1M13p8.13dk.1M138w.1V1Mfeo.1Mfik.1Mfex.1Mh5n.1Mfis.1Mg31.1Mfer.1Mg2z.1",
  "Mfh9.1Mgg1.1Mkco.1Mm7f.1Mldg.1Mkdk.1Mssx.1Mh7j.1Mk4l.1Mkkq.1Mkcp.1Mny6.1Mglp.1Mmm1.1Mrs1.1Mnz1.1",
  "Mgc4.1Mo2g.1Mn5j.1Mho3.1Msix.1Mg16.1Mghc.1Mlig.1Mu11.1Mfm9.1Mg49.1Ml7n.1Mfey.1Mffx.1Mfez.1Mijq.1",
  "Mgkz.1Mgfv.1Mi3b.1Mi1y.1Mnhf.1Mflt.1Mrt3.1Mggk.1Mhlo.1M1f.1i.1M1f.1j.1M1f.1k.1M1f.1l.1M1g.1c.1M1",
  "g.1d.1M1g.1e.1M1g.1f.1M1g.1g.1M1g.1h.1M1g.1i.1M1g.1j.1M1g.1k.1M1g.1l.1M1h.1c.1M1d.kco.1M1e.kco.1",
  "M1f.kco.1M1g.kco.1M1h.kco.1M1i.kco.1M1j.kco.1M1k.kco.1M1l.kco.1M1d.1c.kco.1M1d.1d.kco.1M1d.1e.kc",
  "o.1M2w.2v.1M2t.36.2v.1M2t.3a.1M30.38.2s.1M9lu.1M9lw.1M9ly.1M9m0.1S9m2.2M9m5.1M9m7.1M9m9.1M9mb.1M",
  "9md.1M9mf.1M9mh.1M9mj.1M9ml.1M9mn.1M9mp.1M9ms.1M9mu.1M9mw.1S9my.6M9n6.1M9n9.1M9nc.1M9nf.1S9ni.5M",
  "9no.1M9nq.1S9ns.6S9nz.4Mfl0.gp8.1M9lu.9n5.9oc.9mw.1M9lu.9nv.9n9.9lt.1M9lu.9o3.9ne.9lu.1M9lu.9oc.",
  "9nv.1M9lw.9mz.9o3.9m8.1M9lw.9o3.9mp.1M9ly.9m1.9o3.1M9m0.9mh.9m7.9oc.9mx.1M9m0.9oc.9m3.9oc.1M9m2.",
  "9o3.9mh.1M9m2.9oc.9nk.1M9m3.9lw.9nu.1M9m3.9nt.9mr.9mw.1M9m3.9nx.9nu.9oc.1M9m4.9nx.9o3.1M9m4.9o3.",
  "9ni.1M9m6.9m4.1M9m6.9mz.9oc.1M9m5.9np.9nu.9oc.1M9m6.9nv.9mo.9oc.1M9m5.9nx.1M9m5.9nx.9m8.9nt.9nk.",
  "1M9m5.9nx.9nl.9oc.9mw.9nv.1M9m5.9nx.9nz.9mr.9mw.1M9m8.9nt.9nk.1M9m8.9nt.9nk.9mw.9o3.1M9m7.9nv.9m",
  "k.9lw.9nx.1M9m7.9nx.9oc.9n1.1M9m9.9oc.9mh.1M9mb.9nv.9my.1M9mb.9oc.9nh.1M9md.9lw.9m7.9nv.1M9md.9o",
  "3.9mp.9oc.9nk.1M9mf.9nu.9o3.9m8.1M9mj.9o3.9mp.1M9mj.9o3.9mw.1M9mo.9oc.9mh.1M9mv.9mf.1M9mx.9nv.1M",
  "9mw.9o3.1M9my.9n2.1M9n2.9mr.9mw.1M9n3.9lw.9ms.1M9n5.9oc.9mj.9o3.9mw.1M9n5.9oc.9ms.1M9n4.9oc.9nw.",
  "9nv.1M9n8.9lu.9mh.9mw.9nv.1M9n8.9m7.9nv.1M9n8.9mb.1M9n7.9nv.1M9n9.9lt.9nt.9mr.9mx.1M9n9.9lv.9oc.",
  "9mw.1M9na.9mr.9mf.9lz.9nv.1M9n9.9nt.9o3.1M9nc.9m7.9mn.9oc.9nv.1M9ne.9ml.1M9ne.9mz.9n6.1M9nc.9nv.",
  "9ms.1M9ne.9o3.9mh.1M9ne.9oc.9mg.1M9nd.9oc.9mn.1M9nh.9lw.9o3.9mw.1M9ng.9nv.9mw.1M9nf.9o3.1M9nh.9o",
  "3.9mx.1M9nf.9oc.9nv.1M9nf.9oc.9o3.1M9ni.9lw.9m7.9nx.1M9ni.9lw.9nv.1M9ni.9mr.9n3.1M9ni.9nv.9m7.1M",
  "9ni.9o3.9mf.9nr.9o3.1M9nj.9m7.9nx.9o3.1M9nj.9nu.1M9nj.9nu.9n4.9oc.9nv.1M9nl.9m4.1M9nl.9m4.9mw.9o",
  "3.1M9nl.9oc.9mw.9nv.1M9no.9oc.9mx.1M9no.9oc.9nv.1M9nq.9lu.9o3.1M9nu.9mr.9mw.9nv.1M9nu.9nt.1M9nv.",
  "9n8.9oc.1M9nv.9oc.9na.9nv.1M9nw.9nk.1M9nw.9o3.9mw.9ma.9o3.1M9nz.9mr.9mw.1M1c.m9l.1M1d.m9l.1M1e.m",
  "9l.1M1f.m9l.1M1g.m9l.1M1h.m9l.1M1i.m9l.1M1j.m9l.1M1k.m9l.1M1l.m9l.1M1d.1c.m9l.1M1d.1d.m9l.1M1d.1",
  "e.m9l.1M1d.1f.m9l.1M1d.1g.m9l.1M1d.1h.m9l.1M1d.1i.m9l.1M1d.1j.m9l.1M1d.1k.m9l.1M1d.1l.m9l.1M1e.1",
  "c.m9l.1M1e.1d.m9l.1M1e.1e.m9l.1M1e.1f.m9l.1M1e.1g.m9l.1M2w.34.2p.1M2s.2p.1M2p.39.1M2q.2p.36.1M33",
  ".3a.1M34.2r.1M2s.31.1M2s.31.1e.1M2s.31.1f.1M2x.39.1Minn.jdc.1Mk6l.gp8.1Mhlz.l7n.1Mk5q.lh7.1Mkkq.",
  "irz.fmi.ny6.1M34.2p.1M32.2p.1Mqk.2p.1M31.2p.1M2z.2p.1M2z.2q.1M31.2q.1M2v.2q.1M2r.2p.30.1M2z.2r.2",
  "p.30.1M34.2u.1M32.2u.1Mqk.2u.1Mqk.2v.1M31.2v.1M2z.2v.1M2w.3e.1M2z.2w.3e.1M31.2w.3e.1M2v.2w.3e.1M",
  "38.2w.3e.1Mqk.30.1M31.30.1M2s.30.1M2z.30.1M2u.31.1M32.31.1Mqk.31.1M31.31.1M2r.31.1M2z.31.1M31.31",
  ".1e.1M2r.31.1e.1M31.1e.1M2z.31.1e.1M31.31.1f.1M2r.31.1f.1M31.1f.1M2z.31.1f.1M31.6qd.37.1M31.6qd.",
  "37.1e.1M34.2p.1M2z.34.2p.1M31.34.2p.1M2v.34.2p.1M36.2p.2s.1M36.2p.2s.6qd.37.1M36.2p.2s.6qd.37.1e",
  ".1M34.37.1M32.37.1Mqk.37.1M31.37.1M34.3a.1M32.3a.1Mqk.3a.1M31.3a.1M2z.3a.1M31.3a.1M34.3b.1M32.3b",
  ".1Mqk.3b.1M31.3b.1M2z.3b.1M31.3b.1M2z.qx.1M31.qx.1X1M2q.35.1M2r.2r.1M2r.2s.1M2r.6qd.2z.2v.1X1M2s",
  ".2q.1M2v.3d.1M2w.2p.1M2w.34.1M2x.32.1M2z.2z.1M2z.31.1M2z.38.1M30.31.1M30.32.1M30.33.2v.1M30.3c.1",
  "M31.2q.1M31.2x.30.1M31.33.30.1M34.2w.1X1M34.34.31.1M34.36.1M37.36.1M37.3a.1M3b.2q.1M3a.6qd.31.1M",
  "2p.6qd.31.1M1d.k4l.1M1e.k4l.1M1f.k4l.1M1g.k4l.1M1h.k4l.1M1i.k4l.1M1j.k4l.1M1k.k4l.1M1l.k4l.1M1d.",
  "1c.k4l.1M1d.1d.k4l.1M1d.1e.k4l.1M1d.1f.k4l.1M1d.1g.k4l.1M1d.1h.k4l.1M1d.1i.k4l.1M1d.1j.k4l.1M1d.",
  "1k.k4l.1M1d.1l.k4l.1M1e.1c.k4l.1M1e.1d.k4l.1M1e.1e.k4l.1M1e.1f.k4l.1M1e.1g.k4l.1M1e.1h.k4l.1M1e.",
  "1i.k4l.1M1e.1j.k4l.1M1e.1k.k4l.1M1e.1l.k4l.1M1f.1c.k4l.1M1f.1d.k4l.1M2v.2p.30.1Vm8dX3V1jX9V9oXkA",
  "1aViAsMui.1Muk.1V2iX8VyAeV2A1qMx2n.1V8A4M5tl.1AaV3Mx3g.1V1Mh1.1V2A4V2AkMh2.1Mgs.1Mgx.1Mh8.1Mh6.1",
  "V1Mim.1Mhz.1Mil.1Mxub.1AgMx3o.1Mhu.1M5u6.1A4Mh0.1AgMbf.1XkM37.1M2r.1M2u.1M35.1Mx6e.1V2M87.1M9f.1",
  "V1fX3VaX6V1kX8V1yX8VcX6V38XbVuX3V26X1VbX4VxX1V1jX9VeX2VaX2V2vXoVsXaV6X2V6X2V6X9V7X1V7X1V18Mx0n.1",
  "Mxtj.1Mh7.1Mxua.1V9Mi5.1V2X4S3vk.28V1aX2VaX6V8mcXcVnX4V1dX6isMrpk.1Mkc4.1Ms7e.1Mrt4.1Mlw1.1Mfg2.",
  "1Mgkl.1Mvj0.2Mhn5.1Mssx.1Mgw7.1Mhmw.1Mjcm.1Mne1.1Mp6t.1Mqin.1Mqt6.1Mr20.1Msjz.1Mkxu.1Mljv.1Mmah.",
  "1Mmvy.1Mq4d.1Msq2.1Muep.1Mfia.1Mghh.1Ml50.1Mmjf.1Mqi5.1Mv8e.1Mifk.1Mm3v.1Mqfh.1Mr50.1Mjih.1Mpnc.",
  "1Mqvz.1Miq2.1Mkd3.1Mlm2.1Mmpo.1Mslq.1Mfpi.1Mg53.1Mgda.1Mjwk.1Ml3n.1Mmj4.1Mnhj.1Mpa9.1Mqh2.1Mqjg.",
  "1Ms1b.1Mtv6.1Mupb.1Mv7e.1Mnt8.1Mnzz.1Motc.1Mq15.1Mt1g.1Mvb3.1Mrfa.1Mhjz.1Miro.1Mokg.1Mpdq.1Mmle.",
  "1Mnuy.1Mrsy.1Mttj.1Mhjs.1Mi8y.1Mkyb.1Mlp6.1Mlxr.1Moq7.1Moxj.1Mtor.1Mgcy.1Mpe3.1Mg64.1Mg5o.1Mo4c.",
  "1Mou6.1Mq29.1Mtpx.1Mrk0.1Mjin.1Mkxu.1Mrge.1Mfg9.1Mi5j.1Miz6.1Mmtj.1Mn74.1Mgev.1Mnwb.1Mfr3.1Miw9.",
  "1Mff1.1Mlho.1Mk1k.1Mopu.1Mgjn.1Mhge.1Mni9.1Mq4p.1Mre2.1Mla2.1Msds.1Mlfs.1Mjjy.1Mput.1Mjog.1Mn6t.",
  "1Mfji.1Mg2x.1Mg5l.1Mkn5.1Moo7.1Mprj.1Mrf6.1Mssv.1Mgdx.1Mgn6.1Mho3.1Mir0.1Mk3p.1Mm4e.1Mnxm.1Mtkd.",
  "1Mui2.1Mvbr.1Mvda.1Mgbf.1Mkau.1Ml87.1Msbm.1Mino.1Mj9s.1Mjcw.1Mjve.1Mlyb.1Mmdl.1Mn0p.1Mo22.1Movo.",
  "1Mpdb.1Ms9y.1Mq9a.1Msgz.1Mt3e.1Mg7r.1Mgbn.1Mgql.1Mma0.1Mr0i.1Mre2.1Miq1.1Miyd.1Mjnf.1Ml9q.1Moji.",
  "1Mmt1.1Mfl0.1Mh6h.1Mi5j.1Miii.1Mizg.1Mmuq.1Mmzt.1Mp7e.1Mpc6.1Msvo.1Mtti.1Mtvs.1Mu1k.1Mfpn.1Mo1a.",
  "1Mss4.1Mtrs.1Mj4x.1Mfie.1Mfyy.1Mi5q.1Mi7z.1Mk2h.1Mkxu.1Mmha.1Mncy.1Mq9o.1Msjg.1Mvil.1Mk94.1Mtny.",
  "1Mgax.1Mkfv.1Mkj7.1Mlkx.1Mluk.1Mmx5.1Mn6h.1Mnsb.1Mopc.1Mu3i.1Mg31.1Mje6.1Mtq0.1Mfu3.1Mie1.1Mlpm.",
  "1Msa2.1Mivf.1Mj7o.1Mkk7.1Mmtj.1Mtqe.1Mg89.1Mglr.1Mi91.1Mk5v.1Mkem.1Mko8.1Mlid.1Mmx2.1Mnaa.1Mp6h.",
  "1Mr0v.1Mr1d.1Msss.1Mtsy.1Mgfz.1Mlve.1Mgm5.1Mmhc.1Mn14.1Mqgq.1Mtr7.1Muvr.1Mvbz.1Mkgn.1Mlor.1Mpns.",
  "1Mo97.1Mobk.1Molu.1Mmo0.1Mm8p.1Mriw.1Mfk0.1Mpx2.1Mg8q.1Mg7b.1Mip2.1Mjir.1Monq.1Mi2t.1Mljy.1Mkac.",
  "1Msaj.1Mqx8.1Mtot.1Mr63.1Miqb.1Mg1s.1Mgxs.1V2Mhga.1V1Mk8k.1V2Mg66.1Mmqy.1Mngq.1Mny4.1Mnz2.1Mnz9.",
  "1Mo0f.1Mtw6.1Mon2.1Mp8d.1V1Mqhe.1V1Mrg8.1V2Mshk.1Msn1.1V3Mu7j.1Mu7w.1Mu94.1Mv5g.1Msm6.1Mtrr.1Mfq",
  "m.1Mfzb.1Mg25.1Mgcp.1Mgdg.1Mggh.1Mgwt.1Mgzq.1Mh2g.1Mhfk.1Mhig.1Mi90.1Mi9a.1Mj2s.1Mj8o.1Mj9q.1Mjc",
  "i.1Mk0f.1Mk4i.1Mk9d.1Mkn9.1Mlmf.1Mlqy.1Mlya.1Mmem.1Mmjv.1Mmxu.1Mntd.1Mny6.1Mnyh.1Mnyg.1Mnyo.1Mny",
  "u.1Mnz1.1So0d.2Mo5c.1Mo75.1Mog0.1Movo.1Mow9.1Moxt.1Mp6a.1Mpad.1Mpnx.1Mprt.2Mq53.1Mr2o.1Mr6e.1Mrg",
  "h.1Mri1.1Mrtf.1Mruw.1Msdy.1Mshk.1Mtsz.1Mu0v.1Mu2j.1Mj1x.1M36cu.1Mpp4.1X2Mffq.1Mg51.1Mg2w.1Mfpc.1",
  "Mg1x.1Mg3k.1Mgcn.1Mge2.1Mgwt.1Mgut.1Mgwp.1Mgyq.1Mhga.1Mhir.1Mhms.1Mhn8.1Mhuq.1Mi08.1Miqa.1Miqh.1",
  "Miuh.1Miwd.1Mj4o.1Mj7y.1Mj60.1Mj9q.1Mj8g.1Mjci.1Mjec.1Mjpg.1Mjrw.1Mjte.1Mk0m.1Mk8k.1Mkd3.1Mkd7.1",
  "Mkeu.1Ml89.1Mla2.1Mlkx.1Mlwb.1Mlvv.1Mlya.1Mm5a.1Mmem.1Mnmv.1Mmk5.1Mmnj.1Mmqy.1Mn01.1Mn46.1Mn5n.1",
  "Mnbx.1Mnbz.1Mngq.1Mnh7.1Mnhw.1Mnka.1Mnk0.1Mnv0.1Mo8h.1Mog0.1Mol7.1Morf.1Movo.1Mp4u.1Mpad.1Mpxu.1",
  "Mq27.1Mqrd.1Mr41.1Mr5y.1Mr6e.1Mren.1Mrg8.1Mrez.1Mrgh.1Mrge.1Mrfx.1Mri1.1Mrka.1Mruw.1Msag.1Msj6.1",
  "Msrd.1Msxi.1Mtq4.1Mtsz.1Mtw6.1Mtzv.1Mu0v.1Mu17.1Mu2j.1Mumq.1Mvj0.1M313e.1M3138.1M33dh.1Mbrx.1Mcn",
  "s.1Mcop.1M39e1.1M3bgw.1M3i6r.1Mvgj.1Mvim.1X12M2u.2u.1M2u.2x.1M2u.30.1M2u.2u.2x.1M2u.2u.30.1M37.3",
  "8.2XcM12s.12u.1M12s.12d.1M12s.12j.1M132.12u.1M12s.12l.1X5M15l.14k.1V1M16a.14n.1M15u.1M15c.1S15f.",
  "2S15n.3M160.1M162.1M17.1M161.14x.1M161.14y.1M161.14s.14x.1M161.14s.14y.1M15c.14n.1M15c.14o.1M15c",
  ".14s.1M15d.14s.1M15e.14s.1M15f.14s.1M15g.14s.1M15h.14s.1M15i.14s.1X1M15k.14s.1M15l.14s.1M15m.14s",
  ".1M15n.14s.1M15o.14s.1X1M15q.14s.1X1M15s.14s.1M15t.14s.1X1M15v.14s.1M15w.14s.1X1M15y.14s.1M15z.1",
  "4s.1M160.14s.1M161.14s.1M162.14s.1M15h.14p.1M15d.14v.1M15n.14v.1M15w.14v.1M15c.15o.1M19t.2M1a3.4",
  "M1a6.4M1a8.4M1a2.4M1a7.4M1a1.4M1b8.4M1ba.4M1ac.4M1ab.4M1ae.4M1af.4M1al.2M1ak.2M1am.2M1ag.2M1aw.2",
  "M1ap.2M1bd.4M1bj.4M1bn.4M1bl.4M1bu.2M1bv.4M1c0.2M1c1.4M1by.4M1ci.2M1cj.2VxM1bh.4M1c7.2M1c6.2M1c8",
  ".2M1c7.19w.1M1cb.2M1c5.2M1c9.2M1cg.4M18p.2M17q.17r.2M17q.1cl.2M17q.18o.2M17q.1c7.2M17q.1c6.2M17q",
  ".1c8.2M17q.1cg.3M17q.18p.3M1cc.4M17q.17w.1M17q.17x.1M17q.18l.1M17q.18p.1M17q.18q.1M17s.17w.1M17s",
  ".17x.1M17s.17y.1M17s.18l.1M17s.18p.1M17s.18q.1M17u.17w.1M17u.17x.1M17u.17y.1M17u.18l.1M17u.18p.1",
  "M17u.18q.1M17v.17w.1M17v.18l.1M17v.18p.1M17v.18q.1M17w.17x.1M17w.18l.1M17x.17w.1M17x.18l.1M17y.1",
  "7w.1M17y.17x.1M17y.18l.1M183.17w.1M183.17x.1M183.17y.1M183.18l.1M185.17x.1M185.18l.1M186.17w.1M1",
  "86.17x.1M186.17y.1M186.18l.1M187.17x.1M187.18l.1M188.18l.1M189.17w.1M189.18l.1M18a.17w.1M18a.18l",
  ".1M18h.17w.1M18h.17x.1M18h.17y.1M18h.18l.1M18h.18p.1M18h.18q.1M18i.17x.1M18i.18l.1M18i.18p.1M18i",
  ".18q.1M18j.17r.1M18j.17w.1M18j.17x.1M18j.17y.1M18j.18k.1M18j.18l.1M18j.18p.1M18j.18q.1M18k.17w.1",
  "M18k.17x.1M18k.17y.1M18k.18l.1M18k.18p.1M18k.18q.1M18l.17w.1M18l.17x.1M18l.17y.1M18l.18l.1M18l.1",
  "8p.1M18l.18q.1M18m.17w.1M18m.17x.1M18m.17y.1M18m.18l.1M18m.18p.1M18m.18q.1M18n.17w.1M18n.18l.1M1",
  "8n.18p.1M18n.18q.1M18q.17w.1M18q.17x.1M18q.17y.1M18q.18l.1M18q.18p.1M18q.18q.1M180.19s.1M181.19s",
  ".1M18p.19s.1Mw.18s.18x.1Mw.18t.18x.1Mw.18u.18x.1Mw.18v.18x.1Mw.18w.18x.1Mw.18x.19s.1M17q.181.1M1",
  "7q.182.1M17q.18l.1M17q.18m.1M17q.18p.1M17q.18q.1M17s.181.1M17s.182.1M17s.18l.1M17s.18m.1M17s.18p",
  ".1M17s.18q.1M17u.181.1M17u.182.1M17u.18l.1M17u.18m.1M17u.18p.1M17u.18q.1M17v.181.1M17v.182.1M17v",
  ".18l.1M17v.18m.1M17v.18p.1M17v.18q.1M18h.18p.1M18h.18q.1M18i.18p.1M18i.18q.1M18j.17r.1M18j.18k.1",
  "M18j.18l.1M18j.18p.1M18j.18q.1M18k.18l.1M18k.18p.1M18k.18q.1M18l.17r.1M18l.18l.1M18m.181.1M18m.1",
  "82.1M18m.18l.1M18m.18m.1M18m.18p.1M18m.18q.1M18p.19s.1M18q.181.1M18q.182.1M18q.18l.1M18q.18m.1M1",
  "8q.18p.1M18q.18q.1M17q.17w.1M17q.17x.1M17q.17y.1M17q.18l.1M17q.18n.1M17s.17w.1M17s.17x.1M17s.17y",
  ".1M17s.18l.1M17s.18n.1M17u.17w.1M17u.17x.1M17u.17y.1M17u.18l.1M17u.18n.1M17v.18l.1M17w.17x.1M17w",
  ".18l.1M17x.17w.1M17x.18l.1M17y.17w.1M17y.18l.1M183.17w.1M183.17x.1M183.17y.1M183.18l.1M185.17x.1",
  "M185.17y.1M185.18l.1M186.17w.1M186.17x.1M186.17y.1M186.18l.1M187.17x.1M188.18l.1M189.17w.1M189.1",
  "8l.1M18a.17w.1M18a.18l.1M18h.17w.1M18h.17x.1M18h.17y.1M18h.18l.1M18i.17x.1M18i.18l.1M18j.17w.1M1",
  "8j.17x.1M18j.17y.1M18j.18k.1M18j.18l.1M18k.17w.1M18k.17x.1M18k.17y.1M18k.18l.1M18k.18n.1M18l.17w",
  ".1M18l.17x.1M18l.17y.1M18l.18l.1M18m.17w.1M18m.17x.1M18m.17y.1M18m.18l.1M18m.18n.1M18n.17w.1M18n",
  ".18l.1M18n.19s.1M18q.17w.1M18q.17x.1M18q.17y.1M18q.18l.1M18q.18n.1M17q.18l.1M17q.18n.1M17s.18l.1",
  "M17s.18n.1M17u.18l.1M17u.18n.1M17v.18l.1M17v.18n.1M183.18l.1M183.18n.1M184.18l.1M184.18n.1M18j.1",
  "8k.1M18j.18l.1M18k.18l.1M18m.18l.1M18m.18n.1M18q.18l.1M18q.18n.1M18g.18u.18x.1M18g.18v.18x.1M18g",
  ".18w.18x.1M187.18p.1M187.18q.1M189.18p.1M189.18q.1M18a.18p.1M18a.18q.1M183.18p.1M183.18q.1M184.1",
  "8p.1M184.18q.1M17x.18p.1M17x.18q.1M17w.18p.1M17w.18q.1M17y.18p.1M17y.18q.1M185.18p.1M185.18q.1M1",
  "86.18p.1M186.18q.1M184.17w.1M184.17x.1M184.17y.1M184.18l.1M184.181.1M183.181.1M185.181.1M186.181",
  ".1M187.18p.1M187.18q.1M189.18p.1M189.18q.1M18a.18p.1M18a.18q.1M183.18p.1M183.18q.1M184.18p.1M184",
  ".18q.1M17x.18p.1M17x.18q.1M17w.18p.1M17w.18q.1M17y.18p.1M17y.18q.1M185.18p.1M185.18q.1M186.18p.1",
  "M186.18q.1M184.17w.1M184.17x.1M184.17y.1M184.18l.1M184.181.1M183.181.1M185.181.1M186.181.1M184.1",
  "7w.1M184.17x.1M184.17y.1M184.18l.1M183.18n.1M184.18n.1M187.18l.1M183.17w.1M183.17x.1M183.17y.1M1",
  "84.17w.1M184.17x.1M184.17y.1M187.18l.1M188.18l.1M17r.18r.2ViM17u.17w.18l.1M17u.17x.17w.2M17u.17x",
  ".18l.1M17u.17y.18l.1M17u.18l.17w.1M17u.18l.17x.1M17u.18l.17y.1M17w.18l.17x.2M17x.18l.18q.1M17x.1",
  "8l.18p.1M183.17x.17w.1M183.17w.17x.1M183.17w.18p.1M183.18l.17x.2M183.18l.17w.1M183.18l.18l.2M185",
  ".17x.17x.2M185.18l.18l.1M184.17x.18l.2M184.17w.18q.1M184.18l.17y.2M184.18l.18l.2M186.17x.18p.1M1",
  "86.17y.18l.2M187.18l.17x.2M187.18l.18l.1M187.18l.18q.1M189.17w.18l.1M189.18l.18l.2M189.18l.18p.1",
  "M18a.18l.18l.1M18a.18l.18q.1M18a.18l.18p.1M18h.17y.18l.2M18i.18l.17x.1M18i.18l.18l.1M18k.17x.18l",
  ".1M18k.17x.18q.1M18k.17x.18p.1M18k.17w.17w.2M18k.17y.18l.2M18k.18l.17x.2M18l.17x.17w.1M18l.17x.1",
  "8l.1M18l.17x.18q.1M18l.17w.17x.1M18l.17w.18l.1M18l.17y.17w.1M18l.17y.18l.1V2M18l.17w.17y.1M18n.1",
  "8l.17w.1M18n.18l.18l.1M18m.17x.18l.1M18m.17x.18p.1M18m.17w.18l.2M18m.17w.18p.1M18m.18l.18q.1M18m",
  ".18l.18p.1M18q.18l.18l.2M17s.17y.18q.1M17u.17w.18q.1M17u.17w.18p.1M17u.17y.18q.1M17u.17y.18p.1M1",
  "7u.18l.18q.1M17u.18l.18p.1M17w.18l.18q.1M17w.17x.18p.1M17w.18l.18p.1M183.17y.18p.1M185.17x.18q.1",
  "M184.17x.18q.1M186.17x.18q.1M18k.17w.18q.1M18k.18l.18q.1M18q.17x.18q.1M18q.17w.18q.1M18q.18l.18q",
  ".1M18l.18l.18q.1M18i.18l.18q.1M18m.17x.18q.1M18i.18l.17x.1M18k.17x.18l.1M189.18l.18q.1M18j.18l.1",
  "8q.1M18m.17w.17x.1M18l.17y.18q.1M18k.17w.18l.1M18j.18l.18l.1M18k.17w.18l.1M18m.17w.17x.1M17w.17x",
  ".18q.1M17x.17w.18q.1M18l.17w.18q.1M18h.18l.18q.1M17s.17x.18q.1M18j.18l.18l.1M189.17w.18l.1M185.1",
  "8l.18l.1M183.17y.18q.1M18m.17w.18q.1V8XwM185.18k.1ci.1M18i.18k.1ci.1M17r.18k.18k.18n.1M17r.18j.1",
  "7s.181.1M18l.17x.18l.17z.1M185.18k.189.18l.1M181.183.18o.18k.1M189.18k.18q.18n.1M18o.183.18k.18l",
  ".1M185.18k.18p.1M185.18k.18p.w.17r.18k.18k.18n.w.189.18k.18q.18n.w.18o.183.18k.18l.1M17w.18k.w.1",
  "7w.18k.17r.18k.18n.1M181.1cc.17r.18k.1V3IgM18.1M9hd.1X1S1m.2Mx.1M1r.1S9hy.2X7VgX1M6c4.1M6c3.1M2n",
  ".2S14.2M3f.1M3h.1S9hw.2S9hs.2S9hm.2S9hk.2S9ho.4V2M2j.1M2l.1Mw.lh.4M2n.3M18.1M9hd.1X2M1n.1M1m.1M1",
  "r.1Mx.1M6c4.1S14.2M3f.1M3h.1S9hw.2Mz.1M12.1S16.2M19.1M1o.1M1q.1M1p.1X1M2k.1S10.2M1s.1X4Mw.18r.1M",
  "18g.18r.1Mw.18s.1V1Mw.18t.1X1Mw.18u.1M18g.18u.1Mw.18v.1M18g.18v.1Mw.18w.1M18g.18w.1Mw.18x.1M18g.",
  "18x.1Mw.18y.1M18g.18y.1S17l.2S17m.2S17n.2S17o.2S17p.2M17q.3M17r.2M17s.4M17t.2M17u.4M17v.4M17w.4M",
  "17x.4M17y.4M17z.2M180.2M181.2M182.2M183.4M184.4M185.4M186.4M187.4M188.4M189.4M18a.4M18h.4M18i.4M",
  "18j.4M18k.4M18l.4M18m.4M18n.4M18o.2M18p.2M18q.4M18k.17m.2M18k.17n.2M18k.17p.2M18k.17r.2X2I1X1Sx.",
  "wS2p.qS2j.10S879.2M1a.1S9ho.2M9hd.1M9ob.1M9o2.1M9lt.1M9lv.1M9lx.1M9lz.1M9m1.1M9nn.1M9np.1M9nr.1M",
  "9mr.1M9oc.1M9lu.1M9lw.1M9ly.1M9m0.1S9m2.2M9m5.1M9m7.1M9m9.1M9mb.1M9md.1M9mf.1M9mh.1M9mj.1M9ml.1M",
  "9mn.1M9mp.1M9ms.1M9mu.1M9mw.1S9my.6M9n6.1M9n9.1M9nc.1M9nf.1S9ni.5M9no.1M9nq.1S9ns.6M9nz.1M9o3.1S",
  "9ll.2I1S3cw.2M3hm.1M3cy.1S3ho.2S3cz.3S3hs.6M3dm.1S3d2.3M3dt.1S3d5.aX3S3fl.6X2S3fr.6X2S3fx.6X2S3g",
  "3.3X3S4i.2M4s.1Mw.lg.1M4m.1M4l.1M6g9.1X1M7b6.1S6mo.4M7fk.1M7gr.1XhVcX1VqX1VjX1V2X1VfX2VeXyV3fX5V",
  "3X4V19X3V2gX1VdX3V1X1bV1aX3mVtX3V1dXfVsX4V10X9VuX5V17X5VuX1V11X4VeX16S1fe0.14V3aX2VaX6S1fiw.10X4",
  "V10X4V14X8V1gXbV1S1fo7.bX1S1foj.fX1S1foz.7X1S1fp7.2X1VbX1VfX1V7X1V2X3V1gXcV8nX9VmXaV8XoV1Sk0.2M6",
  "e.1Mih.1Mgj.1X1Mir.1Mxuu.1Mit.1Mis.1Sgm.2M5u9.1Mgo.1Mgu.1Mix.1Mh0.1Mgy.1Mgw.1Mij.1M87.1Mik.1Mh3.",
  "1Mhw.1Siy.2Mh8.1M2mmc.1Mx3i.1Mha.1M2mmd.1Mi6.1M2mme.1M6w.1Shi.2M35.1Mhm.1M2mmg.1Shp.2Mhs.1Miw.1M",
  "iu.1Mxuv.1Miv.1Mi0.1M8s1.1X1Mi7.1Sip.2Mig.1Scg.3M2mmi.1M2mn2.1X1xV6X2V1X1V18X1V2X3V1X2VnX1V20X8V",
  "9X1cVjX1V2X5VxX3VrX5VrX12V1kX4VkX2V1eX1V2X5V8X1V3X1VtX2V3X4VaX7V9X7V1sXwV13X4VcX9V1iX3VtX2VrX5Vq",
  "X7V4XcV7X28V21X1jS1h34.1fXdV1fX7V1aX8VaX6VgS1h80.mX3VtX8V2X5sVvX1V16X1V3X2V2XgV6X8V9XxV1aX8V16Xm",
  "VqX12VsXkVnX9V26X4V10X9V1qX1V5XdVpX7VaX6V1hX1ViX8V13X9V2oX1VkXbViX1V1bX1qV7X1V1X1V4X1VfX1VbX6V1n",
  "X5VaX6V4X1V8X2V2X2VmX1V7X1V2X1V5X1VaX2V2X2V3X2V1X6V1X5V7X2V7X3V5XbVaX1V1X2V1X1V12X1VaX1V1X2V1X1V",
  "4X1VaX1V2X8V2XtV2kX1V5XuV20X8VaX4mV1iX2V12XyV1xXbVaX6VdXjV1mX6VaX6VkXsVrX2VfX4VnX55V1oX2sS1jgg.w",
  "V1fXcV8X2V1X2V8X1V2X1VuX1V2X2VcX9VaX1yV8X2V1aX2VbXrV20X8V2bXdV21X7VaX2eV8X2gVyXeVaX6V9X1V19X1VeX",
  "aVtX3VwX2VmX1VeX21V7X1V2X1V18X3V1X1V2X1V9X8VaX6V6X1V2X1V11X1V2X1V6X7VaX6V18X4VaX6uVpX7VhX1V15X3V",
  "tX2dV1XfV1eXdVpnX2uV33X1V5XbV5gX218V2rXdVtsXgVmXaV32zX5Vg7X5a1V1mX1c6VftX7VvX1VaX4V29X1VaX6VuX2V",
  "6XaV1yXaVaX1V7X1VlX5VjXc0V1mX5iS20dc.wV1nX5S20fv.pX2VpX18V23X4V1lX7VhX1sV5XbV7X9V5p2X15VwX2pV37X",
  "6ppV4X1V7X1V2X1V83XfV1XtV3X2V1XeV4X8Vb0X1s4V2zX5VdX3V9X7VaX2V4I4X318V5yS2p.qS1c.aV3X3Vc4X6VnXfVh",
  "XfV1aX2VnX9V38X1oV6uXaV13X2V1hM2jx3.2jxh.1M2jx4.2jxh.1M2jx4.2jxh.2jxq.1M2jx4.2jxh.2jxr.1M2jx4.2j",
  "xh.2jxs.1M2jx4.2jxh.2jxt.1M2jx4.2jxh.2jxu.1VeI8V1sM2jzt.2jxh.1M2jzu.2jxh.1M2jzt.2jxh.2jxq.1M2jzu",
  ".2jxh.2jxq.1M2jzt.2jxh.2jxr.1M2jzu.2jxh.2jxr.1V16XlV1yX3eVkXcVkXcV2fX9VpX3rS2p.qS2p.qS2p.qS2p.7X",
  "1S2x.iS2p.qS2p.qM2p.1X1S2r.2X2M2v.1X2S2y.2X2S32.4X1S37.8S2p.4X1M2u.1X1S2w.7X1S34.bS2p.qS2p.qS2p.",
  "2X1S2s.4X2S2y.8X1S37.7X1S2p.qS2p.2X1S2s.4X1S2x.5X1M33.1X3S37.7X1S2p.qS2p.qS2p.qS2p.qS2p.qS2p.qS2",
  "p.qS2p.qS2p.qS2p.qS2p.qS2p.qS2p.qM8h.1Mfr.1X2Sq9.hMqg.1Sqr.7M6pz.1Sq9.hMqr.2Sqs.6M6pu.1Mqd.1Mqg.",
  "1Mqi.1Mqu.1Mqp.1Mqo.1Sq9.hMqg.1Sqr.7M6pz.1Sq9.hMqr.2Sqs.6M6pu.1Mqd.1Mqg.1Mqi.1Mqu.1Mqp.1Mqo.1Sq9",
  ".hMqg.1Sqr.7M6pz.1Sq9.hMqr.2Sqs.6M6pu.1Mqd.1Mqg.1Mqi.1Mqu.1Mqp.1Mqo.1Sq9.hMqg.1Sqr.7M6pz.1Sq9.hM",
  "qr.2Sqs.6M6pu.1Mqd.1Mqg.1Mqi.1Mqu.1Mqp.1Mqo.1Sq9.hMqg.1Sqr.7M6pz.1Sq9.hMqr.2Sqs.6M6pu.1Mqd.1Mqg.",
  "1Mqi.1Mqu.1Mqp.1Mqo.1Mrh.2X2S1c.aS1c.aS1c.aS1c.aS1c.aVi4XfV5X1VfXuoVvX6V6X5xV7X1VhX2V7X1V2X1V5X5",
  "Sts.9Su2.3Su6.bMuj.1Sul.2Mww9.1Myh.1Muu.1Muw.1Myx.1Mxb.1My7.1Sts.9Su2.2Su6.2Mu9.1Sub.6Sui.2Mwh.1",
  "Muu.1Mut.1Mv3.1Mx7.1Mwup.1Mxd.1XxV1X34V19X3VeX2VaX4V2X8wVvXhV1mX5V1XcwV16X5yV17X4V1X5cVvX1VmX8V2",
  "X68V7X1V4X1V2X1VfX1V5hX2VgX15S2oma.yV16X4VaX4V2XltV1wX24V1pX5eS17r.2M17w.1M17z.1X1M18o.1M182.1M1",
  "7x.1M187.1M18q.1S18j.4M183.1M189.1M18h.1M185.1M18i.1M181.1M184.1S17u.2M17y.1M180.1M186.1M188.1M1",
  "8a.1M19q.1M1bu.1M1b5.1M19r.1X1M17s.1M17w.1X1M18n.1X2M17x.1X1M18q.1S18j.4M183.1M189.1M18h.1M185.1",
  "M18i.1X1M184.1S17u.2M17y.1X1M186.1X1M18a.1X6M17w.1X4M17x.1X1M18q.1X1M18k.1X1M18m.1M183.1M189.1X1",
  "M185.1M18i.1X1M184.1X2M17y.1X1M186.1X1M18a.1X1M1bu.1X1M19r.1X1M17s.1M17w.1X1M18n.1X2M17x.1M187.1",
  "M18q.1M18j.1X1S18l.2M183.1M189.1M18h.1M185.1M18i.1X1M184.1S17u.2M17y.1X1M186.1M188.1M18a.1M19q.1",
  "X1M1b5.1X1S17r.2M17w.1M17z.1S18n.2M182.1M17x.1M187.1M18q.1X1S18k.3M183.1M189.1M18h.1M185.1M18i.1",
  "M181.1M184.1S17u.2M17y.1M180.1M186.1M188.1M18a.1X5M17s.1M17w.1M17z.1X1M18o.1M182.1M17x.1M187.1M1",
  "8q.1X1S18k.3M183.1M189.1M18h.1M185.1M18i.1M181.1M184.1S17u.2M17y.1M180.1M186.1M188.1M18a.1X1gV2X",
  "7iV18X4V2sXcVfX2VfX1VfX1V11XbM1c.18.1M1d.18.1M1e.18.1M1f.18.1M1g.18.1M1h.18.1M1i.18.1M1j.18.1M1k",
  ".18.1M1l.18.1V5M14.2p.15.1M14.2q.15.1M14.2r.15.1M14.2s.15.1M14.2t.15.1M14.2u.15.1M14.2v.15.1M14.",
  "2w.15.1M14.2x.15.1M14.2y.15.1M14.2z.15.1M14.30.15.1M14.31.15.1M14.32.15.1M14.33.15.1M14.34.15.1M",
  "14.35.15.1M14.36.15.1M14.37.15.1M14.38.15.1M14.39.15.1M14.3a.15.1M14.3b.15.1M14.3c.15.1M14.3d.15",
  ".1M14.3e.15.1M9hw.37.9hx.1M2r.1M36.1M2r.2s.1M3b.3e.1V1S2p.qM2w.3a.1M31.3a.1M37.2s.1M37.37.1M34.3",
  "4.3a.1M3b.2r.1VqM31.2r.1M31.2s.1M31.36.1VzM2s.2y.1VtX1kVqM9kr.9jf.1M9mb.9mb.1M9md.1XdMjez.1Mi1j.",
  "1Mgjw.1M9mv.1Mfik.1Mhlm.1Mr8j.1Mhm1.1Mfj8.1Mk68.1Mmch.1Mk2h.1Mg99.1Mivg.1Mg3x.1Mk34.1Mg7x.1Moqq.",
  "1Mn4v.1Mrs9.1Mhkg.1Mgmx.1Mlxw.1Mjh1.1Mjmd.1Mfeo.1Mfex.1Msi2.1Mijq.1Mffx.1Mgkz.1Mjk7.1Mrxs.1Mjf7.",
  "1Mo01.1Mo6y.1Mglk.1Mlts.1Mkcp.1Mkco.1Mn5f.1Mgaa.1Mgxi.1Msp9.1X4M9hw.kdo.9hx.1M9hw.fex.9hx.1M9hw.",
  "fik.9hx.1M9hw.i2x.9hx.1M9hw.m9l.9hx.1M9hw.jf7.9hx.1M9hw.nh3.9hx.1M9hw.gd9.9hx.1M9hw.k0n.9hx.1X7M",
  "ivr.1Mgkv.1XeV6X4aVrdX3VhX3VdX3V62X6VcX4V1XfVcX4V1kX8VaX6V14X8VuX2VcX4V2XeV9X13V9kX8VeX2VdX3VbX3",
  "V1lX1V1X4VgX2VcX4VaX7V43X1V2kS1c.aV1XslVwyoXwV3dqX2V4geX2V5rlXfVhaX1wiMfgd.1Mfg8.1Mfgh.1M2tcy.1M",
  "fog.1Mfqm.1Mfqz.1Mfsy.1Mfwa.1Mfx5.1Mfzb.1Mfyn.1Mae6.1M2ud6.1Mg25.1Mg2c.1Mg2s.1Mg3b.1M2u58.1Maex.",
  "1Mg2v.1Mg3x.1M2u6j.1Mg47.1Mg4k.1Mfkc.1Mg4s.1Mg51.1M3ly7.1Mg6t.1Mg77.1Mafz.1Mg8r.1Mg92.1Mgaa.1Mga",
  "f.1Mahh.1Mgcn.1Mgcp.1Mgdg.1Mge2.1Sged.2Mgev.1Mgg9.1Mggh.1Mggq.1Mghf.1Mghp.1Mghr.3M2v58.1Mm7k.1Mg",
  "ju.1Mgkf.1M2vdv.1Mgkr.1Mgkx.1Mgli.1Mgpq.1Mgmw.1Mgnc.1Mgo8.1Mgpu.1Mgs6.1Mgsw.1Mgur.1Mgv7.1Mgw4.2M",
  "gwp.1Mgx7.1Mgxf.1Mgxu.1Mh7a.1Mgzq.1Mh7b.1Mh1t.1Mh2s.1Mg7b.1Mhke.1Mhce.1Mhdg.1Mhe5.1Mhaj.1Mhf6.1M",
  "hf5.1Mhik.1M2x9g.1Mhki.1Mhkn.1Mhl2.1Mhlm.1Mhlu.1Mhnm.1M2xm0.1M2xnu.1Mhrg.1Mhsr.1Mht3.1Mhqw.1Mhuu",
  ".1Maum.1Mav0.1Mhzc.1Mi0u.2M2y88.1Mi4j.1Mi54.1Mi5j.1Mi5v.1M2yhk.1Mi67.1Mi6e.1Mitv.1Mi76.1Mayp.1Mi",
  "8w.1Mi9a.1Mibk.1Mia5.1M2z1g.1Mif7.1M2z1i.1Mige.1Migb.1Migs.1Sijl.2Mb3j.1Mikd.1Milk.1Mim5.1Mind.1",
  "Mb4y.1M2zr7.1Mb5o.1Mipc.1Mipf.1Mipi.1Miq2.1M3pg2.1Miri.1M3035.2Mpoh.1Misi.2Mb7r.1M335k.1M3cgq.1M",
  "iua.1Miuj.1Mb8j.1Mivu.1Mix9.1Mixj.1Miyh.1Mj29.1Mbay.1Mba4.1Mj2s.1M30t0.1Mj47.1Mj7s.1Mj7w.1Mj7y.1",
  "Mj7w.1Mj96.1Mj9q.1Mjaq.1Mjac.1Mjan.1Mjby.1Mjci.1Mjcm.1Mjdc.1Mjdn.1Mjfh.1Mjht.1Mjis.1Mjm8.1M31n0.",
  "1Mjlp.1Mjjw.1Mjmw.1Mjnn.1Mjqc.1M31td.1Mjs2.1Mjph.1Mjop.1Mbhq.1Mju1.1Mjum.1Mjvh.1Mjuf.1Mbjg.1Mk0f",
  ".1Mk18.1M32mi.1Mk4j.1Mkc8.1Mk7d.1Mbo9.1Mk9d.1Mbns.1Mbms.1Mg42.1Mg45.1Mkcg.1Mk9o.1Mpf1.1Mdeh.1Mkd",
  "3.1Mkd7.1Mkdd.1Mkf2.1Mker.1M33cz.1Mbpl.1Mkje.1Mkg5.1Mklu.1Mkn9.1M33hp.1Mkni.1Mkkf.1Mkr8.1Mbrx.1M",
  "ksi.1Mkv7.1Mkx6.1Ml2g.1M33xf.1Ml3v.1Mbvc.1Ml5t.1M34br.1Ml78.1Mbwu.1Ml82.1Ml9b.1Sla2.2M34p9.1M2yv",
  "f.1M34sa.1Mle6.1M354s.1Mlhb.1Mlhp.1Mlev.1Mljq.1Mlku.1Mlmf.1Mlkx.1Mlm1.1Mlmg.1Mlmt.1M357i.1Mlkk.1",
  "Mlrj.1Mlta.1Mc37.1Mlvv.1Mlvr.1M35jl.1Mlq1.1Mm0e.1M35ni.1M35ou.1Mm2u.1Mm61.1Mm5a.1Mm57.1Mc5y.1Mm6",
  "i.1Mm7x.1Mm7r.1Mm99.1M2u5h.1Mmdh.1M368z.1Mmfw.1M36i3.1Mmjs.1Mmk5.1Mmkw.1M36yw.1Mmm8.1Mmmt.1M3779",
  ".1M37dg.1Mmt6.1Mmtn.1Mcdo.1Mmud.1Mce0.2Mmyv.1Mmzg.1Mn01.1Mn0l.1Mn2i.1Mcgr.1Mn50.1M386u.1Mn5q.1M3",
  "89e.1Mn74.1M2zrz.1Mnbk.1M38v5.1M38vs.1M38zo.1Mcn0.1Mcnc.1Mnhw.1M394j.1M394i.1M395l.1M396b.1Snj2.",
  "2Mnj3.1Mnka.1Mcop.1Mnm3.1Mcp2.1Mcra.1M39r1.1Mnri.1Mnt8.1Mnv0.1Mctf.1M3a5i.1Mnyu.1M3a8q.1M3a9x.1M",
  "o0f.1Mo2z.1Mcvj.1Mo5c.1Mo5m.1Mo5r.1M3at8.1M3b1j.2Moa6.1Md1e.1M3b8r.1Mog6.1Mog9.1Md2f.1M3beo.1Mon",
  "m.1Md5s.1Moo8.1Moo3.1Moow.1M3c06.1Morn.1Md8h.1Mouf.1Mow2.1Moxx.1Md9w.1M3ciw.1M3cjr.1Mdax.1M3cnt.",
  "1Mp6i.1M3cqm.1Mp79.1Mpa2.1Mpad.1M3d22.1M3d43.1Mpcw.1M3d7s.1Mpdc.1M33a7.1Mded.1Mpf6.1Mphf.1Mdfv.1",
  "Mpj2.1Mhx1.1M3dlz.1M3dmd.1M33bn.1M33bw.1Mpoh.1Mpok.1Msda.1Mdij.1Mpsh.1Mpsb.1Mpst.1Mgc3.1Mptd.1Mp",
  "tf.1Mptp.1Mpuu.1M3ebg.1Mput.1Mpwd.1Mpyb.1Mq0d.1Mpwj.1Mq0t.1Mq1z.1Mq53.1Mpxv.1Mq16.1Mq18.1Mq1o.1M",
  "3eie.1M3eqz.1M3emt.1Mdnv.1Mq9d.1Mq9f.1Mqae.1M3g0a.1Mqck.1M3f3g.1Mdp9.1Mdpd.1M3f75.1M3ff6.1Mdpn.1",
  "Mqj4.1Mqjg.1Mqjr.1Mqjt.1Mqll.1Mqko.1Mqoe.1Mqn6.1Mqrd.1Mqp4.1Mqqz.1Mqrq.1Mdsn.1Mqu9.1Mqv5.1Mdtl.1",
  "Mqxs.1Mqxv.1M3giv.1Mr13.1Mr1a.1Mdv9.1Mr22.1Maez.1M3gz2.1M3h46.1Mdz2.1Mdzb.1Mrds.1Mrfx.1Mrka.1Mrp",
  "x.1M3hrc.1Mrsb.1Mrsx.1Mrvf.1Mrxz.1M3i9b.1M2upw.1Ms0b.1Mrzw.1Ms1c.1M2uvy.1Ms7o.1Msag.1M3jki.1M3jl",
  "9.1Msk4.1Msmp.1Msnl.1M3ju6.1Msnv.1Msvs.1St07.2Msxo.1Mt89.1Mt91.1M3ksa.1Mtjf.1Mej9.1Mtkn.1M3l2v.1",
  "Meli.1Mts3.1Miia.1Mtur.1M3ltx.1M3lzu.1Mepa.1Mepi.1Mu00.1M3mdm.1Mer6.1M3mhi.1Mu17.2Mu21.1M3mpi.1M",
  "u76.1Meur.1Mu95.1Mucn.1Mude.1Muf2.1Mez2.1M3nsg.1Mumq.1Muv4.1Mv0d.1Mf66.1Mf71.1Mv3b.1M3owe.1Mf7c.",
  "1M3oxx.1M3p5a.1M3p8x.1Mvcr.1Mf9y.1Mveh.1Mvem.1Mvet.1Mvf3.1Mvfa.1Mvgb.1M3pxc.1X15uV3t7X5V6juXf62u",
  "I6oX"])

/-- The characters in place of one; `none` if it is refused. Of ASCII only the capital letters
change. -/
def mapChar? (c : Char) : Option (List Char) :=
  if c.toNat < 0x80 then some [c.toLower]
  else
    let run := mappingRuns.find c
    let place := c.toNat - run.start
    match run.kind with
    | 'V' => some [c]
    | 'I' => some []
    | 'M' => some (run.numbers.map Char.ofNat)
    | 'S' => some (run.numbers.map fun n => Char.ofNat (n + place))
    | 'A' => some [if place % 2 = 0 then Char.ofNat (c.toNat + 1) else c]
    | _ => none

/-- Replaces all characters and composes the result. -/
def mapText? (s : List Char) : Option (List Char) :=
  (s.mapM mapChar?).map fun parts => Text.composed parts.flatten

end DiagramLinks.Url.Domain
